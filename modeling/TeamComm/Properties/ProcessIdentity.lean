import TeamComm.Daemon.Registration
import TeamComm.Properties.SessionIndex

/-!
# Processes and their sessions

A registration carries a 64-bit process number; sessions are indexed by its lower 32 bits.  Numbers
which fit in 32 bits get sessions of their own for as long as the daemon runs.  Any other number is
taken for the one it is congruent to, and joins its session.
-/

namespace TeamComm

open Json (Value)

/-- A call registers the process of a number. -/
def Registers (call : Call) (pid : UInt64) : Prop :=
  call.method = "session.register" ∧ getU64 call.params "pid" = some pid

/-- A call is answered with a session id. -/
def AnswersSession (step : CallStep) (id : String) : Prop :=
  ∃ reply, step.output = .ok reply ∧ reply.get "session_id" = some (.string id)

/-- Every registration of a run carries a number which fits in 32 bits. -/
def PidsFit (calls : List Call) : Prop :=
  ∀ call ∈ calls, ∀ pid, Registers call pid → pid.toNat < UInt32.size

theorem toNat_toUInt32_of_fits {pid : UInt64} (fits : pid.toNat < UInt32.size) :
    pid.toUInt32.toNat = pid.toNat := by
  rw [UInt64.toNat_toUInt32]
  exact Nat.mod_eq_of_lt fits

section Identity

variable [Chrono]

/-- Distinct processes never share a session in a run. -/
structure DistinctProcesses (calls : List Call) : Prop where
  /-- A registration stores the number it was given. -/
  faithful : ∀ step ∈ daemon.trace newState calls, ∀ pid id, Registers step.event pid →
    AnswersSession step id →
    ∃ session, step.after.sessions.get id = some session ∧ session.pid.toNat = pid.toNat
  /-- Registrations of two numbers get two sessions, and the later one leaves the other alone. -/
  apart : (daemon.trace newState calls).Pairwise fun step later => ∀ pid other id other_id,
    Registers step.event pid → Registers later.event other → pid ≠ other →
    AnswersSession step id → AnswersSession later other_id →
    id ≠ other_id ∧ later.after.sessions.get id = later.before.sessions.get id
  /-- A number which the sessions cannot hold is rejected. -/
  rejected : ∀ step ∈ daemon.trace newState calls, step.event.method = "session.register" →
    (∀ pid, getU64 step.event.params "pid" = some pid → UInt32.size ≤ pid.toNat) →
    ∃ detail, step.output = .error (.error (.invalidParams detail))

/-! ## One registration -/

variable {call : Call} {before : AppStateInner} {pid : UInt64} {id : String}

/-- A registration answers with a session of the truncated number, stored before or minted now, and
keeps all others. -/
theorem register_stores (index : SessionIndex before) (registers : Registers call pid)
    (answers : AnswersSession (daemon.transition before call) id) :
    (∃ session, (daemon.step before call).2.sessions.get id = some session ∧
      session.pid = pid.toUInt32) ∧
    (∀ other, other ≠ id →
      (daemon.step before call).2.sessions.get other = before.sessions.get other) ∧
    ((∃ earlier, before.sessions.get id = some earlier ∧ earlier.pid = pid.toUInt32) ∨
      id = call.env.mintSessionId) := by
  obtain ⟨reply, answered, named⟩ := answers
  change (daemon.step before call).1 = .ok reply at answered
  have step : daemon.step before call = _ :=
    (step_register registers.1).trans (exec_sessionRegister call.env call.params before)
  rw [registers.2] at step
  dsimp only at step
  split at step
  next existing_id existing found =>
    rw [step] at answered ⊢
    obtain rfl := Except.ok.inj answered
    obtain rfl : existing_id = id :=
      Json.string.inj (Option.some.inj ((sessionId_registerReply _).symm.trans named))
    obtain ⟨indexed, stored⟩ := sessionOf_eq_some.mp found
    obtain ⟨mirrored, mirrored_stored, pid_same⟩ := index.mirror.stored indexed
    obtain rfl := Option.some.inj (mirrored_stored.symm.trans stored)
    exact ⟨⟨_, HashMap.get_insert_self _ _ _, pid_same⟩,
      fun other different => HashMap.get_insert_of_ne _ _ different, Or.inl ⟨_, stored, pid_same⟩⟩
  next =>
    rw [step] at answered ⊢
    obtain rfl := Except.ok.inj answered
    obtain rfl : call.env.mintSessionId = id :=
      Json.string.inj (Option.some.inj ((sessionId_registerReply _).symm.trans named))
    exact ⟨⟨_, HashMap.get_insert_self _ _ _, rfl⟩,
      fun other different => HashMap.get_insert_of_ne _ _ different, Or.inr rfl⟩

/-! ## Sessions keep their process -/

/-- A session stored behind a call was stored before with the same process, unless the call minted
it. -/
theorem session_before {session : Session}
    (found : (daemon.step before call).2.sessions.get id = some session) :
    (∃ earlier, before.sessions.get id = some earlier ∧ earlier.pid = session.pid) ∨
      id = call.env.mintSessionId := by
  have effect := daemon_effect call before
  generalize daemon.step before call = result at effect found
  cases effect with
  | registers created _ minted =>
      rw [HashMap.get_insert] at found
      split at found
      next same => exact Or.inr (same.trans minted)
      next => exact Or.inl ⟨session, found, rfl⟩
  | refreshes _ earlier _ _ stored =>
      rw [HashMap.get_insert] at found
      split at found
      next same =>
        obtain rfl := Option.some.inj found
        exact Or.inl ⟨earlier, same ▸ stored, rfl⟩
      next => exact Or.inl ⟨session, found, rfl⟩
  | deregisters =>
      obtain ⟨-, found⟩ := HashMap.get_remove_eq_some.mp found
      exact Or.inl ⟨session, found, rfl⟩
  | _ => exact Or.inl ⟨session, found, rfl⟩

/-- An id which is not minted again keeps its process for as long as it is stored. -/
theorem session_since {front back : List Call} {session : Session}
    (other : ∀ call ∈ back, call.env.mintSessionId ≠ id)
    (found : (daemon.run newState (front ++ back)).sessions.get id = some session) :
    ∃ earlier, (daemon.run newState front).sessions.get id = some earlier ∧
      earlier.pid = session.pid := by
  induction back using List.reverseRecOn generalizing session with
  | nil => exact ⟨session, by simpa using found, rfl⟩
  | append_singleton back call ih =>
      rw [← List.append_assoc, Mealy.run_snoc] at found
      rcases session_before found with ⟨earlier, stored, same⟩ | minted
      · obtain ⟨first, first_stored, first_same⟩ :=
          ih (fun call member => other call (by simp [member])) stored
        exact ⟨first, first_stored, first_same.trans same⟩
      · exact absurd minted.symm (other call (by simp))

/-! ## Runs -/

variable {calls : List Call}

/-- Two registrations of a run whose numbers differ even when truncated. -/
private theorem registrations_apart (fresh : FreshIds calls) {front between back : List Call}
    {first later : Call} (same : calls = front ++ first :: between ++ later :: back)
    {other : UInt64} {other_id : String} (different : pid.toUInt32 ≠ other.toUInt32)
    (registers : Registers first pid) (later_registers : Registers later other)
    (answers : AnswersSession (daemon.transition (daemon.run newState front) first) id)
    (later_answers : AnswersSession
      (daemon.transition (daemon.run newState (front ++ first :: between)) later) other_id) :
    id ≠ other_id ∧
      (daemon.step (daemon.run newState (front ++ first :: between)) later).2.sessions.get id =
        (daemon.run newState (front ++ first :: between)).sessions.get id := by
  have done : front ++ first :: between = (front ++ [first]) ++ between := by simp
  have seen_fresh : FreshIds ((front ++ [first]) ++ between) := by
    rw [same, done] at fresh
    exact fresh.front
  obtain ⟨⟨session, stored, session_pid⟩, -, -⟩ :=
    register_stores (sessionIndex_run seen_fresh.front.front) registers answers
  rw [← Mealy.run_snoc] at stored
  obtain ⟨env, spent, minted⟩ := sessionsMinted_run seen_fresh.front _ _ stored
  rw [done] at later_answers ⊢
  obtain ⟨-, others, source⟩ :=
    register_stores (sessionIndex_run seen_fresh) later_registers later_answers
  have apart : id ≠ other_id := by
    rintro rfl
    rcases source with ⟨earlier, earlier_stored, earlier_pid⟩ | minted_later
    · have kept : ∀ call ∈ between, call.env.mintSessionId ≠ id := fun call member again =>
        seen_fresh.ne spent member (Env.mintSessionId_inj.mp (again.trans minted))
      obtain ⟨_, first_stored, same_pid⟩ := session_since kept earlier_stored
      obtain rfl := Option.some.inj (first_stored.symm.trans stored)
      exact different (session_pid.symm.trans (same_pid.trans earlier_pid))
    · have unspent : FreshIds ((front ++ [first]) ++ (between ++ later :: back)) := by
        simpa [same] using fresh
      exact unspent.ne spent (by simp) (Env.mintSessionId_inj.mp (minted_later.symm.trans minted))
  exact ⟨apart, others id apart⟩

/-- Processes are kept apart exactly when all their numbers fit in 32 bits. -/
theorem distinctProcesses_iff (fresh : FreshIds calls) :
    DistinctProcesses calls ↔ PidsFit calls := by
  constructor
  · intro distinct call member pid registers
    by_contra large
    obtain ⟨front, back, rfl⟩ := List.append_of_mem member
    have step_member : daemon.transition (daemon.run newState front) call ∈
        daemon.trace newState (front ++ call :: back) :=
      Mealy.mem_trace.mpr ⟨front, call, back, rfl, rfl⟩
    obtain ⟨id, answered⟩ := register_answered registers.1 registers.2
    obtain ⟨detail, failed⟩ := distinct.rejected _ step_member registers.1 fun other read => by
      obtain rfl := Option.some.inj (registers.2.symm.trans read)
      exact not_lt.mp large
    change (daemon.step (daemon.run newState front) call).1 = _ at failed
    rw [answered] at failed
    cases failed
  · intro fit
    refine ⟨?_, ?_, ?_⟩
    · intro step member pid id registers answers
      obtain ⟨front, call, back, rfl, rfl⟩ := Mealy.mem_trace.mp member
      obtain ⟨⟨session, stored, session_pid⟩, -, -⟩ :=
        register_stores (sessionIndex_run fresh.front) registers answers
      refine ⟨session, stored, ?_⟩
      rw [session_pid]
      exact toNat_toUInt32_of_fits (fit call (by simp) pid registers)
    · refine Mealy.pairwise_trace fun front first between later back same => ?_
      intro pid other id other_id registers later_registers numbers answers later_answers
      refine registrations_apart fresh same ?_ registers later_registers answers later_answers
      intro truncated
      have fits := fit first (by simp [same]) pid registers
      have other_fits := fit later (by simp [same]) other later_registers
      refine numbers (UInt64.toNat_inj.mp ?_)
      rw [← toNat_toUInt32_of_fits fits, ← toNat_toUInt32_of_fits other_fits, truncated]
    · intro step member method unfit
      obtain ⟨front, call, back, rfl, rfl⟩ := Mealy.mem_trace.mp member
      cases read : getU64 call.params "pid" with
      | some pid =>
          exact absurd (unfit pid read) (not_le.mpr (fit call (by simp) pid ⟨method, read⟩))
      | none =>
          refine ⟨"missing required field: pid", ?_⟩
          change call.method = "session.register" at method
          change (daemon.step (daemon.run newState front) call).1 = _
          rw [step_register method, exec_sessionRegister, read]

end Identity

section Aliased

attribute [local instance] Chrono.utc

/-- Process 1 registers, and then the process whose number is larger by 2^32. -/
def aliasedCalls : List Call := [
  ⟨"session.register", .object [("pid", .u64 1)], .ofSeconds 0 "a"⟩,
  ⟨"session.register", .object [("pid", .u64 4294967297)], .ofSeconds 1 "b"⟩]

theorem not_distinctProcesses_aliasedCalls : ¬DistinctProcesses aliasedCalls := by
  intro distinct
  have apart := distinct.apart
  simp only [aliasedCalls, Mealy.trace_cons, Mealy.trace_nil, List.pairwise_cons] at apart
  exact (apart.1 _ List.mem_cons_self 1 4294967297 "sess_a" "sess_a" ⟨rfl, rfl⟩ ⟨rfl, rfl⟩
    (by decide) ⟨_, rfl, rfl⟩ ⟨_, rfl, rfl⟩).1 rfl

/-- Two processes whose numbers fit. -/
def twoProcesses : List Call := [
  ⟨"session.register", .object [("pid", .u64 11)], .ofSeconds 0 "a"⟩,
  ⟨"session.register", .object [("pid", .u64 22)], .ofSeconds 1 "b"⟩]

theorem distinctProcesses_iff_twoProcesses : DistinctProcesses twoProcesses := by
  refine (distinctProcesses_iff (show FreshIds twoProcesses by decide)).mpr ?_
  intro call member pid registers
  simp only [twoProcesses, List.mem_cons, List.not_mem_nil, or_false] at member
  rcases member with rfl | rfl
  · obtain rfl : (11 : UInt64) = pid := Option.some.inj registers.2
    decide
  · obtain rfl : (22 : UInt64) = pid := Option.some.inj registers.2
    decide

end Aliased

end TeamComm
