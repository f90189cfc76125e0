import TeamComm.Mcp.Bridges
import TeamComm.Properties.ClaimExpiry
import TeamComm.Properties.ReservationSafety

/-!
# Reservations through the tools

A claim of the tool `claim_file` passes its lifetime under a name which the daemon does not read,
and lasts as long as the daemon's default whatever it asks for.  A release of the tool
`release_file` passes the identity of its session, which the daemon does not read either: whoever
names a reservation releases it.
-/

namespace TeamComm

open Json (Value)

section Claims

variable [Chrono] {state : AppStateInner}

/-- A call stores a reservation for exactly as many seconds as were asked for. -/
def ClaimsAsAsked (state : AppStateInner) (call : Call) (sessionId : String) (path : PathBuf)
    (mode : ReservationMode) (seconds : UInt64) : Prop :=
  ∃ reply, ∃ reservation : Reservation,
    daemon.step state call = (.ok reply, { state with
      reservations := state.reservations.insert reservation.reservationId reservation }) ∧
    reply.get "reservation_id" = some (.string reservation.reservationId) ∧
    reservation.sessionId = sessionId ∧ reservation.path = path ∧ reservation.mode = mode ∧
    reservation.acquiredAt = call.env.now ∧
    reservation.expiresAt.nanos = reservation.acquiredAt.nanos + seconds.toNat * 1000000000

/-- A claim whose expiry can be computed is stored. -/
theorem step_of_expiry {call : Call} {sessionId : String} {path : PathBuf} {mode : ReservationMode}
    {ttlSec : UInt64} {expires : DateTime}
    (read : Request.read call.method call.params =
      .ok (.reservationClaim sessionId path mode ttlSec))
    (registered : state.sessions.containsKey sessionId = true)
    (computed : expiry call.env.now ttlSec = .ok expires) :
    daemon.step state call =
      (.ok (Claim.reply ⟨sessionId, path, mode, expires⟩ call.env state), { state with
        reservations := state.reservations.insert call.env.mintReservationId
          (Claim.reservation ⟨sessionId, path, mode, expires⟩ call.env) }) := by
  rw [Request.step_of_read state read, Request.perform, computed]
  exact if_pos registered

/-- A stored claim ends when the daemon's reading of its lifetime does. -/
theorem expiry_of_claimsAsAsked {call : Call} {sessionId : String} {path : PathBuf}
    {mode : ReservationMode} {ttlSec seconds : UInt64}
    (read : Request.read call.method call.params =
      .ok (.reservationClaim sessionId path mode ttlSec))
    (registered : state.sessions.containsKey sessionId = true)
    (claims : ClaimsAsAsked state call sessionId path mode seconds) :
    ∃ expires, expiry call.env.now ttlSec = .ok expires ∧
      expires.nanos = call.env.now.nanos + seconds.toNat * 1000000000 := by
  obtain ⟨reply, reservation, step, named, -, -, -, acquired, ends⟩ := claims
  cases computed : expiry call.env.now ttlSec with
  | error failure =>
      rw [Request.step_of_read state read, Request.perform, computed] at step
      cases (Prod.mk.inj step).1
  | ok expires =>
      rw [step_of_expiry read registered computed] at step
      obtain ⟨answered, stored⟩ := Prod.mk.inj step
      obtain rfl := Except.ok.inj answered
      rw [Claim.reservationId_reply] at named
      have same_id : call.env.mintReservationId = reservation.reservationId :=
        Json.string.inj (Option.some.inj named)
      have found := congrArg (fun after => after.reservations.get reservation.reservationId) stored
      simp only [← same_id, HashMap.get_insert_self] at found
      have same : Claim.reservation ⟨sessionId, path, mode, expires⟩ call.env = reservation :=
        Option.some.inj found
      refine ⟨expires, rfl, ?_⟩
      rw [← acquired, ← ends, ← same]
      rfl

namespace Mcp

/-- A claim of the tool lasts as long as it asks for exactly when it asks for ten minutes, the
default of the daemon. -/
theorem claimFile_iff {args : Value} {sent : MethodCall} {sessionId path modeText : String}
    {mode : ReservationMode} {seconds : UInt64} {env : Env}
    (session : requireStr args "session_id" = .ok sessionId)
    (claimed : requireStr args "path" = .ok path) (asked : requireStr args "mode" = .ok modeText)
    (known : parseReservationMode modeText = .ok mode)
    (lifetime : (optU64 args "ttl_sec").getD 300 = seconds) (sends : Sends claimFile args sent)
    (registered : state.sessions.containsKey sessionId = true)
    (inside : env.now.nanos + seconds.toNat * 1000000000 ≤ maxUtc) :
    ClaimsAsAsked state (sent.call env) sessionId ⟨path⟩ mode seconds ↔ seconds = 600 := by
  have read := read_claimFile session claimed asked known sends
  constructor
  · intro claims
    obtain ⟨expires, computed, ends⟩ := expiry_of_claimsAsAsked read registered claims
    have default_ends := nanos_of_expiry computed
    have cast : asI64 600 = 600 := by decide
    rw [cast] at default_ends
    have same : seconds.toNat = 600 := by
      change expires.nanos = env.now.nanos + _ at ends
      change expires.nanos = env.now.nanos + _ at default_ends
      omega
    exact UInt64.toNat_inj.mp same
  · rintro rfl
    obtain ⟨expires, computed, ends⟩ := expiry_of_le inside
    have step : daemon.step state (sent.call env) = _ := step_of_expiry read registered computed
    exact ⟨_, Claim.reservation ⟨sessionId, ⟨path⟩, mode, expires⟩ env, step,
      Claim.reservationId_reply _ _ _, rfl, rfl, rfl, rfl, ends⟩

end Mcp

/-! ## Releases -/

/-- A call asks to release a reservation in the name of a session. -/
def ReleasesAs (sessionId id : String) (call : Call) : Prop :=
  call.method = "reservation.release" ∧ getStr call.params "reservation_id" = some id ∧
    getStr call.params "session_id" = some sessionId

/-- A call leaves the reservation under an id alone. -/
def Spares (state : AppStateInner) (id : String) (call : Call) : Prop :=
  (daemon.step state call).2.reservations.get id = state.reservations.get id

/-- Whoever names a stored reservation removes it. -/
theorem not_spares {id sessionId : String} {reservation : Reservation} {call : Call}
    (stored : state.reservations.get id = some reservation)
    (releases : ReleasesAs sessionId id call) : ¬Spares state id call := by
  intro spares
  have step : daemon.step state call = _ := step_release releases.1 releases.2.1
  rw [Spares, step, stored, HashMap.get_remove, if_pos rfl] at spares
  cases spares

/-- No stored reservation is spared by a release, whether a client or the tool sends it, and in
whose name ever. -/
theorem release_by_others {id other : String} {reservation : Reservation}
    (stored : state.reservations.get id = some reservation) :
    (∀ call, ReleasesAs other id call → ¬Spares state id call) ∧
    ∀ args sent env, Mcp.requireStr args "reservation_id" = .ok id →
      Mcp.optStr args "session_id" = some other → Mcp.Sends Mcp.releaseFile args sent →
      ¬Spares state id (sent.call env) := by
  refine ⟨fun call => not_spares stored, fun args sent env named session sends => ?_⟩
  exact not_spares stored (Mcp.names_releaseFile named session sends)

end Claims

section Examples

open Mcp

attribute [local instance] Chrono.utc

/-- The arguments of a claim for a number of seconds. -/
def claimArgs (lifetime : List (String × Value)) : Value := .object ([
  ("session_id", .string "sess_a"), ("path", .string "/src/lib.rs"), ("mode", .string "write")] ++
    lifetime)

/-- A claim without a lifetime should last for the five minutes of the tool. -/
theorem not_claimFile_default :
    ¬∀ (calls : List Call) (args : Value) (sent : MethodCall) (sessionId path modeText : String)
      (mode : ReservationMode) (seconds : UInt64) (env : Env),
      requireStr args "session_id" = .ok sessionId → requireStr args "path" = .ok path →
      requireStr args "mode" = .ok modeText → parseReservationMode modeText = .ok mode →
      (optU64 args "ttl_sec").getD 300 = seconds → Sends claimFile args sent →
      (daemon.run newState calls).sessions.containsKey sessionId = true →
      env.now.nanos + seconds.toNat * 1000000000 ≤ maxUtc →
      ClaimsAsAsked (daemon.run newState calls) (sent.call env) sessionId ⟨path⟩ mode seconds := by
  intro asked
  have sends : Sends claimFile (claimArgs []) _ := sends_claimFile rfl rfl rfl
  have known : parseReservationMode "write" = .ok .write := by decide
  have claims := asked oneAgent (claimArgs []) _ "sess_a" "/src/lib.rs" "write" .write 300
    (.ofSeconds 10 "b") rfl rfl rfl known rfl sends rfl (by decide)
  have read := read_claimFile rfl rfl rfl known sends
  obtain ⟨expires, computed, ends⟩ := expiry_of_claimsAsAsked read rfl claims
  have other_ends := nanos_of_expiry computed
  have cast : asI64 600 = 600 := by decide
  rw [ends, cast] at other_ends
  revert other_ends
  decide

theorem claimFile_iff_tenMinutes :
    ∃ sent, Sends claimFile (claimArgs [("ttl_sec", .u64 600)]) sent ∧
      ClaimsAsAsked (daemon.run newState oneAgent) (sent.call (.ofSeconds 10 "b")) "sess_a"
        ⟨"/src/lib.rs"⟩ .write 600 :=
  ⟨_, sends_claimFile rfl rfl rfl,
    (claimFile_iff rfl rfl rfl (by decide) rfl (sends_claimFile rfl rfl rfl) rfl (by decide)).mpr
      rfl⟩

/-- Another agent releases what an agent holds. -/
theorem not_spares_stranger :
    ¬∀ (calls : List Call) (id other : String) (reservation : Reservation) (call : Call),
      (daemon.run newState calls).reservations.get id = some reservation →
      ReleasesAs other id call → other ≠ reservation.sessionId →
      Spares (daemon.run newState calls) id call := by
  intro spares
  have stored : (daemon.run newState (contestingCalls.take 3)).reservations.get "resv_c" =
      some ⟨"resv_c", "sess_a", ⟨"/src/lib.rs"⟩, .write, .ofSeconds 2 (by decide),
        .ofSeconds 602 (by decide)⟩ := rfl
  have releases : ReleasesAs "sess_b" "resv_c" ⟨"reservation.release", .object [
      ("reservation_id", .string "resv_c"), ("session_id", .string "sess_b")],
      .ofSeconds 3 "d"⟩ := ⟨rfl, rfl, rfl⟩
  exact not_spares stored releases (spares _ _ _ _ _ stored releases (by decide))

theorem release_by_others_stranger :
    ¬Spares (daemon.run newState (contestingCalls.take 3)) "resv_c" ⟨"reservation.release", .object [
      ("reservation_id", .string "resv_c"), ("session_id", .string "sess_b")], .ofSeconds 3 "d"⟩ :=
  (release_by_others (show (daemon.run newState (contestingCalls.take 3)).reservations.get "resv_c" =
      some ⟨"resv_c", "sess_a", ⟨"/src/lib.rs"⟩, .write, .ofSeconds 2 (by decide),
        .ofSeconds 602 (by decide)⟩ from rfl)).1 _ ⟨rfl, rfl, rfl⟩

end Examples

end TeamComm
