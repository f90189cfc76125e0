import TeamComm.Properties.ClaimExpiry
import TeamComm.Properties.ReservationSafety

/-!
# Looking before claiming

A claim compares paths by their components, `reservation.list` compares the texts which spell them.
An agent which lists a path before it claims the path foresees the reported conflicts exactly when
the conflicting reservations are spelled with a text which goes on from the text of the path.
-/

namespace TeamComm

open Json (Value)

/-- The reservations which a look at a path shows. -/
def shown (env : Env) (state : AppStateInner) (path : String) : List Reservation :=
  ((env.order.arrange state.reservations.values).filter fun reservation =>
    decide (env.now < reservation.expiresAt)).filter fun reservation =>
      startsWith reservation.path.inner path

theorem mem_shown {env : Env} {state : AppStateInner} {path : String} {reservation : Reservation} :
    reservation ∈ shown env state path ↔
      (∃ id, state.reservations.get id = some reservation) ∧ env.now < reservation.expiresAt ∧
        startsWith reservation.path.inner path = true := by
  rw [shown, List.mem_filter, List.mem_filter, IterOrder.mem_arrange, HashMap.mem_values,
    decide_eq_true_iff, and_assoc]

/-- A call lists the reservations of a path. -/
def Looks (path : String) (call : Call) : Prop :=
  call.method = "reservation.list" ∧ getStr call.params "path" = some path

/-- A call claims a path. -/
def ClaimsPath (path : String) (call : Call) : Prop :=
  call.method = "reservation.claim" ∧ getStr call.params "path" = some path

theorem path_of_claimOf {path : String} {call : Call} {claim : Claim}
    (claims : ClaimsPath path call) (parsed : claimOf call.env call.params = .ok claim) :
    claim.path = ⟨path⟩ := by
  unfold claimOf at parsed
  rw [getPath, claims.2] at parsed
  split at parsed
  next => cases parsed
  next =>
    simp only [Option.map_some, required] at parsed
    split at parsed
    next => cases parsed
    next =>
      split at parsed
      next => cases parsed
      next => exact (congrArg Claim.path (Except.ok.inj parsed)).symm

/-! ## A claim which reports all there is -/

/-- A claim of everything, for no time at all. -/
def probe (sessionId path : String) (env : Env) : Call :=
  ⟨"reservation.claim", .object [("session_id", .string sessionId), ("path", .string path),
    ("mode", .string "exclusive"), ("ttl_sec", .u64 0)], env⟩

theorem expiry_zero (now : DateTime) : expiry now 0 = .ok now := by
  obtain ⟨expires, computed, ends⟩ := @expiry_of_le now 0 (by simpa using now.upper)
  have same : expires = now := DateTime.ext (by simpa using ends)
  rw [computed, same]

theorem claimOf_probe (sessionId path : String) (env : Env) :
    claimOf env (probe sessionId path env).params =
      .ok ⟨sessionId, ⟨path⟩, .exclusive, env.now⟩ := by
  have named : getStr (probe sessionId path env).params "session_id" = some sessionId := by
    simp [probe, getStr, Value.get_object, Json.lookup_cons_eq_ite]
  have claims : getStr (probe sessionId path env).params "path" = some path := by
    simp [probe, getStr, Value.get_object, Json.lookup_cons_eq_ite]
  have mode : getStr (probe sessionId path env).params "mode" = some "exclusive" := by
    simp [probe, getStr, Value.get_object, Json.lookup_cons_eq_ite]
  have ttl : getU64 (probe sessionId path env).params "ttl_sec" = some 0 := by
    simp [probe, getU64, Value.get_object]
  have exclusive : parseReservationMode "exclusive" = .ok .exclusive := by decide
  simp only [claimOf, requiredStr_eq_ok.mpr named, getPath, claims, Option.map_some, required, mode,
    Option.getD_some, exclusive, ttl, expiry_zero]

/-! ## What a look foresees -/

section Look

variable [Chrono] {state : AppStateInner} {path : String} {now : DateTime}

theorem step_looks {call : Call} (looks : Looks path call) :
    daemon.step state call =
      (.ok (.array ((shown call.env state path).map Reservation.toValue)), state) := by
  have read : Request.read call.method call.params = .ok (.reservationList (some ⟨path⟩)) := by
    rw [looks.1, Request.read, getPath, looks.2]
    rfl
  rw [Request.step_of_read state read]
  rfl

/-- Whatever a claim of a path reports at an instant is shown by a look at the path at that
instant. -/
def Foreseen (state : AppStateInner) (path : String) (now : DateTime) : Prop :=
  ∀ look claim : Call, Looks path look → ClaimsPath path claim →
    look.env.now = now → claim.env.now = now →
    ∀ reply items, (daemon.step state claim).1 = .ok reply →
      reply.get "conflicts" = some (.array items) →
      ∃ listing listed, (daemon.step state look).1 = .ok listing ∧
        listing.doc.asArray = some listed ∧ ∀ item ∈ items, item ∈ listed

/-- The path of a reservation can be read off its JSON value. -/
theorem path_toValue (reservation : Reservation) :
    reservation.toValue.get "path" = some (.string reservation.path.inner) := by
  simp [Reservation.toValue, Value.get_object, Json.lookup_cons_eq_ite, PathBuf.toValue,
    Value.string]

/-- A look which foresees every conflict shows what some registered session could run into. -/
theorem startsWith_of_foreseen (foreseen : Foreseen state path now) {id other : String}
    {reservation : Reservation} (stored : state.reservations.get id = some reservation)
    (unexpired : now < reservation.expiresAt) (equal : (reservation.path == ⟨path⟩) = true)
    (registered : state.sessions.containsKey other = true) (apart : other ≠ reservation.sessionId) :
    startsWith reservation.path.inner path = true := by
  let env : Env := ⟨now, "", .stored⟩
  let claim := probe other path env
  let look : Call := ⟨"reservation.list", .object [("path", .string path)], env⟩
  have looks : Looks path look := by
    refine ⟨rfl, ?_⟩
    simp [look, getStr, Value.get_object]
  have claims : ClaimsPath path claim := by
    refine ⟨rfl, ?_⟩
    simp [claim, probe, getStr, Value.get_object, Json.lookup_cons_eq_ite]
  have step : daemon.step state claim = _ :=
    step_claim rfl (claimOf_probe other path env) registered
  obtain ⟨listing, listed, answered, items, contained⟩ := foreseen look claim looks claims rfl rfl
    _ _ (congrArg Prod.fst step) (Claim.conflicts_reply _ _ _)
  rw [step_looks looks] at answered
  obtain rfl := Except.ok.inj answered
  obtain rfl := Option.some.inj items
  have conflict : reservation ∈
      (Claim.mk other ⟨path⟩ .exclusive env.now).conflicts env state := by
    refine Claim.mem_conflicts.mpr ⟨⟨id, stored⟩, ⟨apart, ?_, rfl⟩, unexpired⟩
    exact (PathBuf.beq_iff.mp equal).symm
  have member := contained _ (List.mem_map_of_mem (List.mem_map_of_mem conflict))
  obtain ⟨value, value_member, same⟩ := List.mem_map.mp member
  obtain ⟨visible, visible_shown, rfl⟩ := List.mem_map.mp value_member
  have spelled : visible.path.inner = reservation.path.inner := by
    have read := path_toValue visible
    rw [Value.get, same, ← Value.get, path_toValue] at read
    exact (Json.string.inj (Option.some.inj read)).symm
  rw [← spelled]
  exact (mem_shown.mp visible_shown).2.2

/-- A look foresees the conflicts of its path exactly when the unexpired reservations which some
registered session could run into go on from the text of the path. -/
theorem foreseen_iff :
    Foreseen state path now ↔
      ∀ id reservation, state.reservations.get id = some reservation →
        now < reservation.expiresAt → (reservation.path == ⟨path⟩) = true →
        (∃ other, state.sessions.containsKey other = true ∧ other ≠ reservation.sessionId) →
        startsWith reservation.path.inner path = true := by
  constructor
  · rintro foreseen id reservation stored unexpired equal ⟨other, registered, apart⟩
    exact startsWith_of_foreseen foreseen stored unexpired equal registered apart
  · rintro alike look claim looks claims rfl claim_now reply items answered reported
    obtain ⟨parsed, parsed_eq, registered, rfl⟩ := claim_of_answered claims.1 answered
    rw [Claim.conflicts_reply] at reported
    obtain rfl := Json.array.inj (Option.some.inj reported)
    refine ⟨_, _, congrArg Prod.fst (step_looks looks), rfl, fun item member => ?_⟩
    obtain ⟨value, value_member, rfl⟩ := List.mem_map.mp member
    obtain ⟨reservation, conflict, rfl⟩ := List.mem_map.mp value_member
    obtain ⟨⟨id, stored⟩, ⟨apart, equal, -⟩, unexpired⟩ := Claim.mem_conflicts.mp conflict
    have equal_path : (reservation.path == ⟨path⟩) = true := by
      rw [PathBuf.beq_iff, ← path_of_claimOf claims parsed_eq]
      exact equal.symm
    have unexpired_now : look.env.now < reservation.expiresAt := claim_now ▸ unexpired
    have starts := alike id reservation stored unexpired_now equal_path
      ⟨parsed.sessionId, registered, apart⟩
    exact List.mem_map_of_mem (List.mem_map_of_mem (mem_shown.mpr ⟨⟨id, stored⟩, unexpired_now,
      starts⟩))

end Look

section Respelled

attribute [local instance] Chrono.utc

/-- Of two agents one holds `/src/lib.rs`.  The other one looks at the file under another spelling,
sees nothing, and is told of a conflict all the same. -/
theorem not_foreseen_respelled :
    ¬∀ (calls : List Call) (path : String) (now : DateTime),
      Foreseen (daemon.run newState calls) path now := by
  intro foreseen
  have stored : (daemon.run newState (contestingCalls.take 3)).reservations.get "resv_c" =
      some ⟨"resv_c", "sess_a", ⟨"/src/lib.rs"⟩, .write, .ofSeconds 2 (by decide),
        .ofSeconds 602 (by decide)⟩ := rfl
  have registered :
      (daemon.run newState (contestingCalls.take 3)).sessions.containsKey "sess_b" = true := rfl
  have starts := startsWith_of_foreseen
    (foreseen (contestingCalls.take 3) "/src//lib.rs" (.ofSeconds 3 (by decide))) stored (by decide)
    (by decide) registered (by decide)
  revert starts
  decide

end Respelled

end TeamComm
