import TeamComm.Daemon.Request

/-!
# How long a claim is granted

A claim asks for a number of seconds.  The handler casts it to a signed number, makes a span of it
and adds the span to its clock reading, without a check at any of the three.  The reservation ends
when the claim asked for as long as that instant is one which `chrono` can represent, and in no
other case is the claim refused.
-/

namespace TeamComm

open Json (Value)

/-! ## The three steps of the expiry -/

theorem asI64_of_small {value : UInt64} (small : value.toNat < 2 ^ 63) :
    asI64 value = value.toNat :=
  BitVec.toInt_eq_toNat_of_lt (x := value.toBitVec) (by
    have same : value.toBitVec.toNat = value.toNat := rfl
    omega)

/-- An expiry is as far away as the cast number of seconds says. -/
theorem nanos_of_expiry {now expires : DateTime} {ttlSec : UInt64}
    (computed : expiry now ttlSec = .ok expires) :
    expires.nanos = now.nanos + asI64 ttlSec * 1000000000 := by
  unfold expiry trySeconds at computed
  split at computed
  next => cases computed
  next span spans =>
    split at spans
    next =>
      obtain rfl := Option.some.inj spans
      unfold DateTime.checkedAddSigned at computed
      split at computed
      next => cases computed
      next added =>
        split at added
        next =>
          obtain rfl := Option.some.inj added
          obtain rfl := Except.ok.inj computed
          rfl
        next => cases added
    next => cases spans

/-- The steps succeed while the sum is an instant: the limits of the cast and of spans lie beyond
the last instant. -/
theorem expiry_of_le {now : DateTime} {ttlSec : UInt64}
    (inside : now.nanos + ttlSec.toNat * 1000000000 ≤ maxUtc) :
    ∃ expires, expiry now ttlSec = .ok expires ∧
      expires.nanos = now.nanos + ttlSec.toNat * 1000000000 := by
  have lower := now.lower
  unfold minUtc at lower
  have inside' := inside
  unfold maxUtc at inside'
  have cast : asI64 ttlSec = ttlSec.toNat := asI64_of_small (by omega)
  have span : trySeconds (asI64 ttlSec) = some ((ttlSec.toNat : Int) * 1000000000) := by
    rw [trySeconds, cast, if_pos (by omega)]
  have above : minUtc ≤ now.nanos + ttlSec.toNat * 1000000000 := by
    unfold minUtc
    omega
  refine ⟨⟨_, above, inside⟩, ?_, rfl⟩
  rw [expiry, span]
  simp only [DateTime.checkedAddSigned, dif_pos (And.intro above inside)]

/-! ## Claims -/

section Claims

variable [Chrono] {state : AppStateInner} {call : Call} {sessionId : String} {path : PathBuf}
  {mode : ReservationMode} {ttlSec : UInt64}

/-- A claim is granted for exactly the seconds it asks for, or refused without any effect. -/
def HonoursTtl (state : AppStateInner) (call : Call) (sessionId : String) (path : PathBuf)
    (mode : ReservationMode) (ttlSec : UInt64) : Prop :=
  match daemon.step state call with
  | (.ok reply, after) => ∃ reservation : Reservation,
      reply.get "reservation_id" = some (.string reservation.reservationId) ∧
      after = { state with
        reservations := state.reservations.insert reservation.reservationId reservation } ∧
      reservation.sessionId = sessionId ∧ reservation.path = path ∧ reservation.mode = mode ∧
      reservation.acquiredAt = call.env.now ∧
      reservation.expiresAt.nanos = reservation.acquiredAt.nanos + ttlSec.toNat * 1000000000
  | (.error (.error _), after) => after = state
  | (.error (.panic _), _) => False

/-- A claim which is granted for its seconds ends at an instant. -/
theorem le_of_honoursTtl
    (read : Request.read call.method call.params =
      .ok (.reservationClaim sessionId path mode ttlSec))
    (registered : state.sessions.containsKey sessionId = true)
    (honours : HonoursTtl state call sessionId path mode ttlSec) :
    call.env.now.nanos + ttlSec.toNat * 1000000000 ≤ maxUtc := by
  rw [HonoursTtl, Request.step_of_read state read, Request.perform] at honours
  cases computed : expiry call.env.now ttlSec with
  | error failure =>
      rw [computed] at honours
      cases failure with
      | error error => exact absurd computed (expiry_ne_error _ _ _)
      | panic => exact honours.elim
  | ok expires =>
      rw [computed] at honours
      simp only [registered, if_true] at honours
      obtain ⟨reservation, -, -, -, -, -, acquired, exact_end⟩ := honours
      rw [← acquired, ← exact_end]
      exact reservation.expiresAt.upper

/-- A claim of a registered session is granted for its seconds exactly when `chrono` can represent
the instant at which they end. -/
theorem honoursTtl_iff
    (read : Request.read call.method call.params =
      .ok (.reservationClaim sessionId path mode ttlSec))
    (registered : state.sessions.containsKey sessionId = true) :
    HonoursTtl state call sessionId path mode ttlSec ↔
      call.env.now.nanos + ttlSec.toNat * 1000000000 ≤ maxUtc := by
  refine ⟨le_of_honoursTtl read registered, fun inside => ?_⟩
  obtain ⟨expires, computed, exact_end⟩ := expiry_of_le inside
  rw [HonoursTtl, Request.step_of_read state read, Request.perform, computed]
  simp only [registered, if_true]
  exact ⟨Claim.reservation ⟨sessionId, path, mode, expires⟩ call.env,
    Claim.reservationId_reply _ _ _, rfl, rfl, rfl, rfl, rfl, exact_end⟩

end Claims

section Limits

attribute [local instance] Chrono.utc

/-- One agent. -/
def oneAgent : List Call := [
  ⟨"session.register", .object [("pid", .u64 1)], .ofSeconds 0 "a"⟩]

/-- A claim of the agent for a number of seconds. -/
def claimFor (ttlSec : UInt64) : Call :=
  ⟨"reservation.claim", .object [("session_id", .string "sess_a"), ("path", .string "/src/lib.rs"),
    ("ttl_sec", .u64 ttlSec)], .ofSeconds 10 "b"⟩

theorem honoursTtl_iff_hour :
    HonoursTtl (daemon.run newState oneAgent) (claimFor 3600) "sess_a" ⟨"/src/lib.rs"⟩ .write
      3600 :=
  (honoursTtl_iff rfl rfl).mpr (by decide)

/-- The longest lease there is to ask for ends a second before it starts. -/
theorem not_honoursTtl_longest :
    ¬∀ (calls : List Call) (call : Call) (sessionId : String) (path : PathBuf)
      (mode : ReservationMode) (ttlSec : UInt64),
      Request.read call.method call.params = .ok (.reservationClaim sessionId path mode ttlSec) →
      (daemon.run newState calls).sessions.containsKey sessionId = true →
      HonoursTtl (daemon.run newState calls) call sessionId path mode ttlSec := by
  intro honours
  have inside := le_of_honoursTtl rfl rfl
    (honours oneAgent (claimFor 18446744073709551615) "sess_a" ⟨"/src/lib.rs"⟩ .write _ rfl rfl)
  revert inside
  decide

end Limits

end TeamComm
