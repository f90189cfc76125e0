import TeamComm.Daemon.Request
import TeamComm.Properties.ProcessIdentity

/-!
# A process keeps its session

A session lives from the registration which creates it to the deregistration which names it.  In
between nothing but its last heartbeat changes, whatever else happens, so a process which registers
again is given the session it had.
-/

namespace TeamComm

open Json (Value)

/-- A call deregisters a session. -/
def Deregisters (call : Call) (id : String) : Prop :=
  Request.read call.method call.params = .ok (.sessionDeregister id)

/-- What a call can do to the sessions. -/
inductive SessionChange (call : Call) (state after : AppStateInner) : Prop
  /-- No session changes. -/
  | untouched (same : after.sessions = state.sessions)
  /-- A registration creates a session. -/
  | created (pid : UInt32) (agentType : AgentType) (workingDir : PathBuf)
      (capabilities : List String)
      (read : Request.read call.method call.params =
        .ok (.sessionRegister pid agentType workingDir capabilities))
      (stored : after.sessions = state.sessions.insert call.env.mintSessionId
        (newSession call.env pid agentType workingDir capabilities))
  /-- A registration or a heartbeat refreshes a session. -/
  | refreshed (id : String) (session : Session) (found : state.sessions.get id = some session)
      (stored : after.sessions =
        state.sessions.insert id { session with lastHeartbeat := call.env.now })
  /-- A session is deregistered. -/
  | removed (id : String) (deregisters : Deregisters call id)
      (stored : after.sessions = state.sessions.remove id)

section Steps

variable [Chrono] {state : AppStateInner} {call : Call}

theorem session_change (state : AppStateInner) (call : Call) :
    SessionChange call state (daemon.step state call).2 := by
  cases read : Request.read call.method call.params with
  | error error =>
      rw [Request.step_of_error state read]
      exact .untouched rfl
  | ok request =>
      rw [Request.step_of_read state read]
      cases request with
      | sessionRegister pid agentType workingDir capabilities =>
          rw [Request.perform]
          split
          next id session found =>
            exact .refreshed id session (sessionOf_eq_some.mp found).2 rfl
          next => exact .created pid agentType workingDir capabilities read rfl
      | sessionDeregister id =>
          rw [Request.perform]
          split
          · exact .removed id read rfl
          · exact .untouched rfl
      | sessionHeartbeat id =>
          rw [Request.perform]
          split
          next session found => exact .refreshed id session found rfl
          next => exact .untouched rfl
      | _ => exact .untouched (Request.sessions_perform rfl call.env state)

/-- Where a session comes from: the registration which created it gave it all it holds but its last
heartbeat. -/
def CreatedBy (creator : Call) (id : String) (session : Session) : Prop :=
  id = creator.env.mintSessionId ∧
    Request.read creator.method creator.params = .ok (.sessionRegister session.pid session.agentType
      session.workingDir session.capabilities) ∧
    session.startedAt = creator.env.now

/-- Every session was created by a registration. -/
theorem createdBy_run (calls : List Call) :
    ∀ id session, (daemon.run newState calls).sessions.get id = some session →
      ∃ creator ∈ calls, CreatedBy creator id session := by
  let holds (calls : List Call) (state : AppStateInner) : Prop :=
    ∀ id session, state.sessions.get id = some session →
      ∃ creator ∈ calls, CreatedBy creator id session
  suffices always : ∀ front, front <+: calls → holds front (daemon.run newState front) from
    always calls (List.prefix_refl _)
  refine Mealy.history_invariant ?_ ?_
  · intro id session found
    simp [newState] at found
  · intro front call back _ before id session found
    have earlier : ∀ id session, (daemon.run newState front).sessions.get id = some session →
        ∃ creator ∈ front ++ [call], CreatedBy creator id session := by
      intro id session stored
      obtain ⟨creator, member, created⟩ := before id session stored
      exact ⟨creator, List.mem_append_left _ member, created⟩
    cases session_change (daemon.run newState front) call with
    | untouched same => exact earlier id session (same ▸ found)
    | created pid agentType workingDir capabilities read stored =>
        rw [stored, HashMap.get_insert] at found
        split at found
        next same =>
          obtain rfl := Option.some.inj found
          exact ⟨call, by simp, same, read, rfl⟩
        next => exact earlier id session found
    | refreshed refreshed old old_found stored =>
        rw [stored, HashMap.get_insert] at found
        split at found
        next same =>
          obtain rfl := Option.some.inj found
          exact earlier id old (same ▸ old_found)
        next => exact earlier id session found
    | removed removed _ stored =>
        rw [stored] at found
        obtain ⟨-, found⟩ := HashMap.get_remove_eq_some.mp found
        exact earlier id session found

/-- A stored session is kept by every call which does not deregister it, but for its heartbeat. -/
theorem session_kept {spent : List String} {id : String} {session : Session}
    (minted : Minted Env.mintSessionId spent state.sessions) (fresh : call.env.uuid ∉ spent)
    (stored : state.sessions.get id = some session) (kept : ¬Deregisters call id) :
    ∃ instant, (daemon.step state call).2.sessions.get id =
      some { session with lastHeartbeat := instant } := by
  have as_stored : state.sessions.get id =
      some { session with lastHeartbeat := session.lastHeartbeat } := stored
  cases session_change state call with
  | untouched same => exact ⟨_, same ▸ as_stored⟩
  | created pid agentType workingDir capabilities read inserted =>
      have new_id : id ≠ call.env.mintSessionId := by
        rintro rfl
        rw [minted.absent fresh Env.mintSessionId_inj.mp] at stored
        cases stored
      refine ⟨session.lastHeartbeat, ?_⟩
      rw [inserted, HashMap.get_insert_of_ne _ _ new_id, as_stored]
  | refreshed refreshed old old_found inserted =>
      rw [inserted, HashMap.get_insert]
      split
      next same =>
        obtain rfl := Option.some.inj (stored.symm.trans (same ▸ old_found))
        exact ⟨_, rfl⟩
      next => exact ⟨_, as_stored⟩
  | removed removed deregisters erased =>
      have other : id ≠ removed := by
        rintro rfl
        exact kept deregisters
      refine ⟨session.lastHeartbeat, ?_⟩
      rw [erased, HashMap.get_remove, if_neg other, as_stored]

/-- A session outlives any calls which do not deregister it. -/
theorem session_kept_run {front back : List Call} {id : String} {session : Session}
    (fresh : FreshIds (front ++ back))
    (stored : (daemon.run newState front).sessions.get id = some session)
    (kept : ∀ call ∈ back, ¬Deregisters call id) :
    ∃ instant, (daemon.run newState (front ++ back)).sessions.get id =
      some { session with lastHeartbeat := instant } := by
  induction back using List.reverseRecOn with
  | nil => exact ⟨session.lastHeartbeat, by simpa using stored⟩
  | append_singleton back call ih =>
      rw [← List.append_assoc] at fresh ⊢
      obtain ⟨instant, before⟩ := ih fresh.front fun call member => kept call (by simp [member])
      obtain ⟨later, after⟩ := session_kept (sessionsMinted_run fresh.front) fresh.not_mem before
        (kept call (by simp))
      exact ⟨later, by rw [Mealy.run_snoc, after]⟩

/-- A process which registers again, with no deregistration of its session since, is answered with
the session it had.  Nothing changes but the last heartbeat of the session, which still holds what
the registration gave it that created it. -/
theorem stable_identity {front between : List Call} {first again : Call} {pid : UInt64}
    {id : String} (fresh : FreshIds (front ++ first :: between)) (registers : Registers first pid)
    (answers : AnswersSession (daemon.transition (daemon.run newState front) first) id)
    (kept : ∀ call ∈ between, ¬Deregisters call id) (registers_again : Registers again pid) :
    let state := daemon.run newState (front ++ first :: between)
    ∃ session, state.sessions.get id = some session ∧
      daemon.step state again = (.ok (registerReply id), { state with
        sessions := state.sessions.insert id
          { session with lastHeartbeat := again.env.now } }) ∧
      (∀ other, (daemon.step state again).2.sessions.containsKey other =
        state.sessions.containsKey other) ∧
      (∃ original instant,
        (daemon.run newState (front ++ [first])).sessions.get id = some original ∧
        session = { original with lastHeartbeat := instant }) ∧
      ∃ creator ∈ front ++ [first], CreatedBy creator id session := by
  have whole : front ++ first :: between = (front ++ [first]) ++ between := by simp
  rw [whole] at fresh ⊢
  intro state
  obtain ⟨⟨original, stored, original_pid⟩, -, -⟩ :=
    register_stores (sessionIndex_run fresh.front.front) registers answers
  rw [← Mealy.run_snoc] at stored
  obtain ⟨instant, found⟩ := session_kept_run fresh stored kept
  have index : SessionIndex state := sessionIndex_run fresh
  have indexed : state.sessionsByPid.get original.pid = some id := (index.mirror.indexed found :)
  rw [original_pid] at indexed
  have step : daemon.step state again = _ :=
    (step_register registers_again.1).trans (exec_sessionRegister again.env again.params state)
  rw [registers_again.2] at step
  simp only [sessionOf_eq_some.mpr ⟨indexed, found⟩] at step
  refine ⟨_, found, step, fun other => ?_, ⟨original, instant, stored, rfl⟩, ?_⟩
  · rw [step, Bool.eq_iff_iff, HashMap.containsKey_insert]
    refine or_iff_right_of_imp ?_
    rintro rfl
    exact HashMap.containsKey_iff.mpr ⟨_, found⟩
  · obtain ⟨creator, member, named, read, started⟩ := createdBy_run _ id original stored
    exact ⟨creator, member, named, read, started⟩

end Steps

section Example

attribute [local instance] Chrono.utc

/-- A process registers, is seen working, and another process comes and goes. -/
def busyCalls : List Call := [
  ⟨"state.set", .object [("session_id", .string "sess_a"), ("status", .string "working")],
    .ofSeconds 1 "b"⟩,
  ⟨"session.register", .object [("pid", .u64 2)], .ofSeconds 2 "c"⟩,
  ⟨"session.deregister", .object [("session_id", .string "sess_c")], .ofSeconds 3 "d"⟩]

theorem stable_identity_busyCalls :
    let register : Env → Call := fun env => ⟨"session.register", .object [("pid", .u64 1)], env⟩
    let state := daemon.run newState ([] ++ register (.ofSeconds 0 "a") :: busyCalls)
    (daemon.step state (register (.ofSeconds 4 "e"))).1 = .ok (registerReply "sess_a") := by
  intro register state
  have kept : ∀ call ∈ busyCalls, ¬Deregisters call "sess_a" := by
    simp only [busyCalls, List.mem_cons, List.not_mem_nil, or_false]
    rintro call (rfl | rfl | rfl) deregisters
    · cases deregisters
    · cases deregisters
    · have other : "sess_c" = "sess_a" :=
        Request.sessionDeregister.inj (Except.ok.inj deregisters)
      revert other
      decide
  obtain ⟨session, -, step, -⟩ := stable_identity
    (show FreshIds ([] ++ register (.ofSeconds 0 "a") :: busyCalls) by decide) ⟨rfl, rfl⟩
    ⟨registerReply "sess_a", rfl, sessionId_registerReply _⟩ kept
    (show Registers (register (.ofSeconds 4 "e")) 1 from ⟨rfl, rfl⟩)
  exact congrArg Prod.fst step

end Example

end TeamComm
