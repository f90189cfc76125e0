import TeamComm.Library.ExpirySet
import TeamComm.Properties.ConflictReports
import TeamComm.Properties.ErrorPaths

/-!
# The reservation store

The reservations of the daemon are a set with expiry: a successful claim enters one, a successful
release makes it leave, and `reservation.list` shows what has not expired at its own clock reading.
No other call touches them, not even a deregistration.
-/

namespace TeamComm

open Json (Value)

/-- A claim succeeds.  Parameters and clock of the claim fix the reservation its answer names. -/
def ClaimSucceeds (step : CallStep) (reservation : Reservation) : Prop :=
  step.event.method = "reservation.claim" ∧
    (∃ reply, step.output = .ok reply ∧
      reply.get "reservation_id" = some (.string reservation.reservationId)) ∧
    ∃ claim, claimOf step.event.env step.event.params = .ok claim ∧
      reservation = claim.reservation step.event.env

/-- A release asks for a reservation id. -/
def ReleaseNames (step : CallStep) (id : String) : Prop :=
  step.event.method = "reservation.release" ∧
    getStr step.event.params "reservation_id" = some id

/-- A release succeeds. -/
def ReleaseSucceeds (step : CallStep) (id : String) : Prop :=
  ReleaseNames step id ∧ ∃ reply, step.output = .ok reply

/-! ## Calls as operations on a set -/

/-- The stored reservations, each under its id. -/
def store (state : AppStateInner) : String → Option Reservation := state.reservations.get

/-- What a call does to the set of reservations. -/
def storeOp (step : CallStep) : ExpirySet.Op String Reservation :=
  if step.event.method = "reservation.claim" then
    match step.output, claimOf step.event.env step.event.params with
    | .ok _, .ok claim => .enter step.event.env.mintReservationId (claim.reservation step.event.env)
    | _, _ => .idle
  else if step.event.method = "reservation.release" then
    match getStr step.event.params "reservation_id" with
    | some id => .leave id
    | none => .idle
  else .idle

theorem storeOp_entered {step : CallStep} {id : String}
    (entered : (storeOp step).entered = some id) : id = step.event.env.mintReservationId := by
  unfold storeOp at entered
  split_ifs at entered
  · split at entered
    next => exact (Option.some.inj entered).symm
    next => cases entered
  · split at entered <;> cases entered
  · cases entered

theorem storeOp_leave {step : CallStep} {id : String} :
    storeOp step = .leave id ↔ ReleaseNames step id := by
  unfold storeOp ReleaseNames
  split_ifs with claim release
  · simp only [claim]
    split <;> simp
  · simp only [release, true_and]
    split <;> simp_all
  · simp [release]

section Store

variable [Chrono]

/-- Calls of other methods keep the reservations. -/
theorem reservations_frame {call : Call} {before : AppStateInner}
    (no_claim : call.method ≠ "reservation.claim")
    (no_release : call.method ≠ "reservation.release") :
    (daemon.step before call).2.reservations = before.reservations := by
  have effect := daemon_effect call before
  generalize daemon.step before call = result at effect
  cases effect with
  | claims _ method => exact absurd method no_claim
  | releases _ method => exact absurd method no_release
  | _ => rfl

/-- A call does to the reservations what its operation does to the set. -/
theorem store_follows (before : AppStateInner) (call : Call) :
    (ExpirySet.machine.step (store before) (storeOp (daemon.transition before call))).2 =
      store (daemon.step before call).2 := by
  unfold storeOp store
  split_ifs with method other
  · change call.method = "reservation.claim" at method
    cases answered : (daemon.step before call).1 with
    | error failure => simp [Mealy.transition, answered, daemon_error_frame answered]
    | ok reply =>
        obtain ⟨claim, parsed, registered, -⟩ := claim_of_answered method answered
        have after := step_claim method parsed registered
        simp [Mealy.transition, parsed, after, HashMap.get_insert_eq_update]
  · change call.method = "reservation.release" at other
    cases named : getStr call.params "reservation_id" with
    | none =>
        have failed : (daemon.step before call).1 =
            .error (.error (.invalidParams "missing required field: reservation_id")) := by
          change ((dispatch call.method call.params call.env).exec before).1 = _
          simp only [other, dispatch, handleReservationRelease, Handler.exec_check_bind,
            requiredStr, named, required]
          rfl
        simp [Mealy.transition, named, daemon_error_frame failed]
    | some id =>
        have after : daemon.step before call = _ := step_release other named
        simp [Mealy.transition, named, after, HashMap.get_remove_eq_update]
  · have kept : (daemon.step before call).2.reservations = before.reservations :=
      reservations_frame method other
    rw [kept]
    rfl

theorem storeOp_enter {before : AppStateInner} {call : Call} {id : String}
    {reservation : Reservation} :
    storeOp (daemon.transition before call) = .enter id reservation ↔
      ClaimSucceeds (daemon.transition before call) reservation ∧
        reservation.reservationId = id := by
  constructor
  · intro enters
    unfold storeOp at enters
    split_ifs at enters with method
    · change call.method = "reservation.claim" at method
      split at enters
      next reply claim answered parsed =>
        obtain ⟨rfl, rfl⟩ := ExpirySet.Op.enter.inj enters
        obtain ⟨answered_claim, parsed_claim, -, rfl⟩ := claim_of_answered method answered
        obtain rfl := Except.ok.inj (parsed.symm.trans parsed_claim)
        exact ⟨⟨method, ⟨_, answered, claim.reservationId_reply call.env before⟩, claim, parsed,
            rfl⟩,
          rfl⟩
      next => cases enters
    · split at enters <;> cases enters
  · rintro ⟨⟨method, ⟨reply, answered, -⟩, claim, parsed, rfl⟩, rfl⟩
    simp only [storeOp, method, if_true, answered, parsed]
    rfl

/-- A release succeeds exactly on a stored id. -/
theorem releaseSucceeds_iff {before : AppStateInner} {call : Call} {id : String}
    (names : ReleaseNames (daemon.transition before call) id) :
    ReleaseSucceeds (daemon.transition before call) id ↔
      ∃ reservation, store before id = some reservation := by
  have after : daemon.step before call = _ := step_release names.1 names.2
  rw [store, ← HashMap.containsKey_iff]
  constructor
  · rintro ⟨-, reply, answered⟩
    change (daemon.step before call).1 = .ok reply at answered
    rw [after] at answered
    by_contra absent
    simp [absent] at answered
  · intro stored
    refine ⟨names, .object [("ok", .bool true)], ?_⟩
    change (daemon.step before call).1 = _
    rw [after, if_pos stored]

/-! ## Runs -/

variable {calls : List Call}

/-- The operations of a run. -/
def storeOps (calls : List Call) : List (ExpirySet.Op String Reservation) :=
  (daemon.trace newState calls).map storeOp

private theorem store_follows_trace (calls : List Call) (step : CallStep)
    (member : step ∈ daemon.trace newState calls) :
    (ExpirySet.machine.step (store step.before) (storeOp step)).2 = store step.after := by
  obtain ⟨front, call, back, rfl, rfl⟩ := Mealy.mem_trace.mp member
  exact store_follows _ call

theorem run_storeOps (calls : List Call) :
    ExpirySet.machine.run ExpirySet.empty (storeOps calls) = store (daemon.run newState calls) :=
  Mealy.run_simulation (store_follows_trace calls)

theorem trace_storeOps (calls : List Call) :
    ExpirySet.machine.trace ExpirySet.empty (storeOps calls) =
      (daemon.trace newState calls).map fun step =>
        ExpirySet.machine.transition (store step.before) (storeOp step) :=
  Mealy.trace_simulation (store_follows_trace calls)

/-- Fresh ids enter the set at most once. -/
theorem entersOnce_storeOps (fresh : FreshIds calls) : ExpirySet.EntersOnce (storeOps calls) := by
  have distinct : (calls.map fun call => call.env.mintReservationId).Nodup := by
    refine List.pairwise_map.mpr ((List.pairwise_map.mp fresh).imp ?_)
    exact fun different same => different (Env.mintReservationId_inj.mp same)
  have labels : (daemon.trace newState calls).map (fun step => step.event.env.mintReservationId) =
      calls.map fun call => call.env.mintReservationId := by
    conv_rhs => rw [← daemon.trace_map_event newState calls, List.map_map]
    rfl
  exact .of_labels (labels ▸ distinct) fun step id => storeOp_entered

/-- An id leaves the set in the steps which release it. -/
theorem leaves_iff {step : CallStep} (member : step ∈ daemon.trace newState calls) {id : String} :
    ExpirySet.Leaves id (ExpirySet.machine.transition (store step.before) (storeOp step)) ↔
      ReleaseSucceeds step id := by
  obtain ⟨front, call, back, rfl, rfl⟩ := Mealy.mem_trace.mp member
  rw [ExpirySet.leaves_transition, storeOp_leave]
  constructor
  · rintro ⟨names, held⟩
    exact (releaseSucceeds_iff names).mpr held
  · intro succeeds
    exact ⟨succeeds.1, (releaseSucceeds_iff succeeds.1).mp succeeds⟩

theorem unleft_iff (id : String) :
    (∀ step ∈ ExpirySet.machine.trace ExpirySet.empty (storeOps calls),
      ¬ExpirySet.Leaves id step) ↔
      ∀ step ∈ daemon.trace newState calls, ¬ReleaseSucceeds step id := by
  rw [trace_storeOps, List.forall_mem_map]
  exact forall₂_congr fun step member => not_congr (leaves_iff member)

theorem enter_mem_storeOps {id : String} {reservation : Reservation} :
    .enter id reservation ∈ storeOps calls ↔
      (∃ step ∈ daemon.trace newState calls, ClaimSucceeds step reservation) ∧
        reservation.reservationId = id := by
  rw [storeOps, List.mem_map]
  constructor
  · rintro ⟨step, member, enters⟩
    obtain ⟨front, call, back, rfl, rfl⟩ := Mealy.mem_trace.mp member
    obtain ⟨claims, named⟩ := storeOp_enter.mp enters
    exact ⟨⟨_, member, claims⟩, named⟩
  · rintro ⟨⟨step, member, claims⟩, named⟩
    obtain ⟨front, call, back, rfl, rfl⟩ := Mealy.mem_trace.mp member
    exact ⟨_, member, storeOp_enter.mpr ⟨claims, named⟩⟩

/-- The store shows what was claimed, never released, and has not expired. -/
theorem store_shows_iff (fresh : FreshIds calls) {now : DateTime} {reservation : Reservation} :
    ExpirySet.Shows Reservation.expiresAt (store (daemon.run newState calls)) now reservation ↔
      (∃ step ∈ daemon.trace newState calls, ClaimSucceeds step reservation) ∧
      (∀ step ∈ daemon.trace newState calls, ¬ReleaseSucceeds step reservation.reservationId) ∧
      now < reservation.expiresAt := by
  rw [← run_storeOps, ExpirySet.shows_iff (entersOnce_storeOps fresh)]
  constructor
  · rintro ⟨id, entered, unleft, unexpired⟩
    obtain ⟨claimed, rfl⟩ := enter_mem_storeOps.mp entered
    exact ⟨claimed, (unleft_iff _).mp unleft, unexpired⟩
  · rintro ⟨claimed, unreleased, unexpired⟩
    exact ⟨_, enter_mem_storeOps.mpr ⟨claimed, rfl⟩, (unleft_iff _).mpr unreleased, unexpired⟩

/-- No id is released twice. -/
theorem releaseSucceeds_once (fresh : FreshIds calls) (id : String) :
    (daemon.trace newState calls).Pairwise fun step later =>
      ReleaseSucceeds step id → ¬ReleaseSucceeds later id := by
  have once := ExpirySet.leaves_once (entersOnce_storeOps fresh) id
  rw [trace_storeOps, List.pairwise_map] at once
  refine once.imp_of_mem fun member later_member leaves => ?_
  rwa [leaves_iff member, leaves_iff later_member] at leaves

/-- A release which does not succeed finds nothing. -/
theorem release_notFound {step : CallStep} (member : step ∈ daemon.trace newState calls)
    {id : String} (names : ReleaseNames step id) (failed : ¬ReleaseSucceeds step id) :
    step.output = .error (.error (.notFound s!"reservation {id}")) := by
  obtain ⟨front, call, back, rfl, rfl⟩ := Mealy.mem_trace.mp member
  have absent : ¬(daemon.run newState front).reservations.containsKey id = true := by
    rw [HashMap.containsKey_iff]
    exact fun stored => failed ((releaseSucceeds_iff names).mpr stored)
  have after : daemon.step (daemon.run newState front) call = _ := step_release names.1 names.2
  change (daemon.step (daemon.run newState front) call).1 = _
  rw [after, if_neg absent]

/-- The reservations are a set with expiry: `reservation.list` shows, each once, what was claimed,
never released, and has not expired at its clock reading, and a reservation is released once. -/
theorem reservations_expiry_set (fresh : FreshIds calls) :
    (∀ params env, getPath params "path" = none →
      ∃ listed : List Reservation,
        (daemon.step (daemon.run newState calls) ⟨"reservation.list", params, env⟩).1 =
          .ok (.array (listed.map Reservation.toValue)) ∧
        (listed.map Reservation.reservationId).Nodup ∧
        ∀ reservation, reservation ∈ listed ↔
          (∃ step ∈ daemon.trace newState calls, ClaimSucceeds step reservation) ∧
          (∀ step ∈ daemon.trace newState calls,
            ¬ReleaseSucceeds step reservation.reservationId) ∧
          env.now < reservation.expiresAt) ∧
    ∀ id,
      ((daemon.trace newState calls).Pairwise fun step later =>
        ReleaseSucceeds step id → ¬ReleaseSucceeds later id) ∧
      ∀ step ∈ daemon.trace newState calls, ReleaseNames step id → ¬ReleaseSucceeds step id →
        step.output = .error (.error (.notFound s!"reservation {id}")) := by
  refine ⟨fun params env unfiltered => ?_, fun id => ⟨releaseSucceeds_once fresh id,
    fun step member => release_notFound member⟩⟩
  have named := reservationsNamed_run calls
  refine ⟨_, congrArg Prod.fst (step_reservationList_unfiltered unfiltered), ?_, ?_⟩
  · exact named.listed_nodup env.order _
  · intro reservation
    rw [List.mem_filter, IterOrder.mem_arrange, HashMap.mem_values, decide_eq_true_iff,
      ← store_shows_iff fresh]
    rfl

end Store

section Released

attribute [local instance] Chrono.utc

/-- Two agents claim one file, and the first of the two reservations is released. -/
def releasingCalls : List Call :=
  contestingCalls ++
    [⟨"reservation.release", .object [("reservation_id", .string "resv_c")], .ofSeconds 4 "e"⟩]

theorem reservations_expiry_set_releasingCalls :
    ∃ listed : List Reservation,
      (daemon.step (daemon.run newState releasingCalls)
        ⟨"reservation.list", .object [], .ofSeconds 5 "f"⟩).1 =
        .ok (.array (listed.map Reservation.toValue)) ∧
      contestedReservation "resv_c" "sess_a" 2 ∉ listed ∧
      contestedReservation "resv_d" "sess_b" 3 ∈ listed := by
  obtain ⟨listed, answered, -, shown⟩ :=
    (reservations_expiry_set (show FreshIds releasingCalls by decide)).1 (.object [])
      (.ofSeconds 5 "f") rfl
  have claims : ClaimSucceeds
      (daemon.transition (daemon.run newState (contestingCalls.take 3)) contestingCalls[3])
      (contestedReservation "resv_d" "sess_b" 3) :=
    ⟨rfl, ⟨_, rfl, rfl⟩, _, rfl, rfl⟩
  refine ⟨listed, answered, fun member => ?_, (shown _).mpr ⟨?_, ?_, by decide⟩⟩
  · refine ((shown _).mp member).2.1 _ (Mealy.mem_trace.mpr ⟨contestingCalls, _, [], rfl, rfl⟩) ?_
    exact ⟨⟨rfl, rfl⟩, _, rfl⟩
  · exact ⟨_, Mealy.mem_trace.mpr ⟨contestingCalls.take 3, contestingCalls[3], _, rfl, rfl⟩, claims⟩
  · intro step member succeeds
    obtain ⟨front, call, back, same, rfl⟩ := Mealy.mem_trace.mp member
    have others : ∀ call ∈ releasingCalls, call.method = "reservation.release" →
        getStr call.params "reservation_id" ≠ some "resv_d" := by decide
    exact others call (by simp [same]) succeeds.1.1 succeeds.1.2

end Released

end TeamComm
