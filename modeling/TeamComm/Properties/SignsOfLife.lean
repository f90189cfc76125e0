import TeamComm.Properties.StableIdentity

/-!
# Signs of life

Registering, sending a heartbeat and publishing live state are signs of life of a session, and its
last heartbeat should tell the latest of them.  Registrations and heartbeats write it.  Publishing
stamps the live state only, so the session shows the sign just in case it was made at the very
instant of the last heartbeat.
-/

namespace TeamComm

open Json (Value)

/-- The session of which a request is a sign of life, once it has been answered. -/
def Request.sign : Request → Value → Option String
  | .sessionRegister _ _ _ _, reply => (reply.get "session_id").bind Json.asStr
  | .sessionHeartbeat id, _ => some id
  | .stateSet id _ _ _ _, _ => some id
  | _, _ => none

/-- The session of which a call is a sign of life, if it succeeds. -/
def signOf (step : CallStep) : Option String :=
  match Request.read step.event.method step.event.params, step.output with
  | .ok request, .ok reply => request.sign reply
  | _, _ => none

/-- The clock reading of the latest sign of life of a session. -/
def lastSign (id : String) (steps : List CallStep) : Option DateTime :=
  (steps.filterMap fun step =>
    if signOf step = some id then some step.event.env.now else none).getLast?

/-- A call publishes live state of a session. -/
def Publishes (call : Call) (id : String) : Prop :=
  ∃ focusFile focusBranch worktree status,
    Request.read call.method call.params =
      .ok (.stateSet id focusFile focusBranch worktree status)

/-- Live state of a session is published at the instant of its last heartbeat. -/
def Punctual (state : AppStateInner) (call : Call) : Prop :=
  ∀ id session, Publishes call id → state.sessions.get id = some session →
    session.lastHeartbeat = call.env.now

theorem lastSign_snoc (id : String) (steps : List CallStep) (step : CallStep) :
    lastSign id (steps ++ [step]) =
      if signOf step = some id then some step.event.env.now else lastSign id steps := by
  rw [lastSign, List.filterMap_append]
  split
  next signs => simp [signs]
  next silent => simp [silent, lastSign]

private theorem not_publishes {call : Call} {request : Request}
    (read : Request.read call.method call.params = .ok request)
    (other : ∀ id focusFile focusBranch worktree status,
      request ≠ .stateSet id focusFile focusBranch worktree status) (id : String) :
    ¬Publishes call id := by
  rintro ⟨focusFile, focusBranch, worktree, status, publishes⟩
  exact other id focusFile focusBranch worktree status (Except.ok.inj (read.symm.trans publishes))

section Signs

variable [Chrono]

/-- Throughout a run, the last heartbeat of every session is its latest sign of life. -/
def ShowsLife (calls : List Call) : Prop :=
  ∀ front, front <+: calls → ∀ id session,
    (daemon.run newState front).sessions.get id = some session →
      lastSign id (daemon.trace newState front) = some session.lastHeartbeat

/-- What a call does to the last heartbeats, next to what it is a sign of. -/
inductive Heartbeat (state : AppStateInner) (call : Call) : Prop
  /-- The call writes the last heartbeat of the session it is a sign of, and of no other. -/
  | written
      (heartbeats : ∀ id session, (daemon.step state call).2.sessions.get id = some session →
        if signOf (daemon.transition state call) = some id then session.lastHeartbeat = call.env.now
        else ∃ earlier, state.sessions.get id = some earlier ∧
          earlier.lastHeartbeat = session.lastHeartbeat)
      (unpublished : ∀ id session, Publishes call id → state.sessions.get id ≠ some session)
  /-- The call publishes live state of a session and leaves the session as it is. -/
  | missed (id : String) (session : Session) (publishes : Publishes call id)
      (found : state.sessions.get id = some session)
      (same : (daemon.step state call).2.sessions = state.sessions)
      (sign : signOf (daemon.transition state call) = some id)

theorem signOf_of_read {state : AppStateInner} {call : Call} {request : Request}
    (read : Request.read call.method call.params = .ok request) :
    signOf (daemon.transition state call) =
      match (request.perform call.env state).1 with
      | .ok reply => request.sign reply
      | .error _ => none := by
  rw [signOf]
  change (match Request.read call.method call.params, (daemon.step state call).1 with
    | .ok request, .ok reply => request.sign reply
    | _, _ => none) = _
  rw [Request.step_of_read state read, read]
  cases (request.perform call.env state).1 <;> rfl

/-- A call which is a sign of no session and stores none. -/
private theorem Heartbeat.quiet {state : AppStateInner} {call : Call}
    (silent : signOf (daemon.transition state call) = none)
    (kept : ∀ id session, (daemon.step state call).2.sessions.get id = some session →
      state.sessions.get id = some session)
    (unpublished : ∀ id session, Publishes call id → state.sessions.get id ≠ some session) :
    Heartbeat state call := by
  refine .written (fun id session found => ?_) unpublished
  rw [silent, if_neg (by simp)]
  exact ⟨session, kept id session found, rfl⟩

/-- A call which stores one session, of which it is a sign. -/
private theorem Heartbeat.refresh {state : AppStateInner} {call : Call} {id : String}
    {session : Session} (sign : signOf (daemon.transition state call) = some id)
    (stored : (daemon.step state call).2.sessions = state.sessions.insert id session)
    (now : session.lastHeartbeat = call.env.now)
    (unpublished : ∀ id session, Publishes call id → state.sessions.get id ≠ some session) :
    Heartbeat state call := by
  refine .written (fun other held found => ?_) unpublished
  rw [stored, HashMap.get_insert] at found
  rw [sign]
  by_cases same : other = id
  · rw [if_pos same] at found
    rw [if_pos (congrArg some same.symm), ← Option.some.inj found, now]
  · rw [if_neg same] at found
    rw [if_neg (fun signs => same (Option.some.inj signs).symm)]
    exact ⟨held, found, rfl⟩

/-- A request which is no sign of life and stores no session. -/
private theorem Heartbeat.of_unsigned {state : AppStateInner} {call : Call} {request : Request}
    (read : Request.read call.method call.params = .ok request)
    (unsigned : ∀ reply, request.sign reply = none)
    (other : ∀ id focusFile focusBranch worktree status,
      request ≠ .stateSet id focusFile focusBranch worktree status)
    (kept : ∀ id session, (request.perform call.env state).2.sessions.get id = some session →
      state.sessions.get id = some session) : Heartbeat state call := by
  refine .quiet ?_ ?_ fun id _ publishes => absurd publishes (not_publishes read other id)
  · rw [signOf_of_read read]
    split
    · exact unsigned _
    · rfl
  · rwa [Request.step_of_read state read]

theorem heartbeat_step (state : AppStateInner) (call : Call) : Heartbeat state call := by
  cases read : Request.read call.method call.params with
  | error error =>
      have step := Request.step_of_error state read
      refine .quiet ?_ (fun id session found => by rwa [step] at found) ?_
      · rw [signOf]
        change (match Request.read call.method call.params, (daemon.step state call).1 with
          | .ok request, .ok reply => request.sign reply
          | _, _ => none) = none
        rw [read]
      · rintro id session ⟨_, _, _, _, publishes⟩
        cases read.symm.trans publishes
  | ok request =>
      have step := Request.step_of_read state read
      have sign := @signOf_of_read _ state call request read
      cases request with
      | sessionRegister pid agentType workingDir capabilities =>
          have silent := not_publishes read (by simp)
          rw [Request.perform] at step sign
          cases known : sessionOf state pid with
          | some known_session =>
              obtain ⟨id, session⟩ := known_session
              rw [known] at step sign
              have signs : signOf (daemon.transition state call) = some id := by
                simpa [Request.sign, sessionId_registerReply, Json.asStr] using sign
              exact .refresh signs (congrArg (fun outcome => outcome.2.sessions) step) rfl
                fun id _ publishes => absurd publishes (silent id)
          | none =>
              rw [known] at step sign
              have signs : signOf (daemon.transition state call) =
                  some call.env.mintSessionId := by
                simpa [Request.sign, sessionId_registerReply, Json.asStr] using sign
              exact .refresh signs (congrArg (fun outcome => outcome.2.sessions) step) rfl
                fun id _ publishes => absurd publishes (silent id)
      | sessionHeartbeat id =>
          have silent := not_publishes read (by simp)
          rw [Request.perform] at step sign
          cases found : state.sessions.get id with
          | some session =>
              rw [found] at step sign
              exact .refresh sign (congrArg (fun outcome => outcome.2.sessions) step) rfl
                fun id _ publishes => absurd publishes (silent id)
          | none =>
              rw [found] at step sign
              exact .quiet sign (fun id session stored => by rwa [step] at stored)
                fun id _ publishes => absurd publishes (silent id)
      | stateSet id focusFile focusBranch worktree status =>
          rw [Request.perform] at step sign
          cases found : state.sessions.get id with
          | some session =>
              have known : state.sessions.containsKey id = true :=
                HashMap.containsKey_iff.mpr ⟨session, found⟩
              rw [if_pos known] at step sign
              exact .missed id session ⟨_, _, _, _, read⟩ found
                (congrArg (fun outcome => outcome.2.sessions) step) sign
          | none =>
              have unknown : ¬state.sessions.containsKey id = true := by
                simp [HashMap.containsKey, found]
              rw [if_neg unknown] at step sign
              refine .quiet sign (fun id session stored => by rwa [step] at stored) ?_
              rintro other session ⟨_, _, _, _, publishes⟩ other_found
              obtain ⟨rfl, -⟩ := Request.stateSet.inj (Except.ok.inj (read.symm.trans publishes))
              rw [found] at other_found
              cases other_found
      | sessionDeregister id =>
          refine .of_unsigned read (fun _ => rfl) (by simp) fun other session found => ?_
          rw [Request.perform] at found
          split at found
          next =>
            obtain ⟨-, found⟩ := HashMap.get_remove_eq_some.mp found
            exact found
          next => exact found
      | _ =>
          refine .of_unsigned read (fun _ => rfl) (by simp) fun _ _ found => ?_
          rwa [Request.sessions_perform rfl] at found

/-- The last heartbeat of a session is its latest sign of life, throughout a run, just in case all
live state is published at the instant of the last heartbeat. -/
theorem showsLife_iff (calls : List Call) :
    ShowsLife calls ↔ ∀ step ∈ daemon.trace newState calls, Punctual step.before step.event := by
  let holds (calls : List Call) (state : AppStateInner) : Prop :=
    ∀ id session, state.sessions.get id = some session →
      lastSign id (daemon.trace newState calls) = some session.lastHeartbeat
  change (∀ front, front <+: calls → holds front (daemon.run newState front)) ↔ _
  refine Mealy.history_iff_guarded ?_ ?_
  · intro id session found
    simp [newState] at found
  · intro front call back _ before
    have last (id : String) : lastSign id (daemon.trace newState (front ++ [call])) =
        if signOf (daemon.transition (daemon.run newState front) call) = some id then
          some call.env.now
        else lastSign id (daemon.trace newState front) := by
      rw [Mealy.trace_snoc, lastSign_snoc]
      rfl
    cases heartbeat_step (daemon.run newState front) call with
    | written heartbeats unpublished =>
        refine iff_of_true (fun id session found => ?_) fun id session publishes found =>
          absurd found (unpublished id session publishes)
        have heartbeat := heartbeats id session found
        rw [last]
        split at heartbeat
        next signs => rw [if_pos signs, heartbeat]
        next silent =>
          obtain ⟨earlier, earlier_found, same⟩ := heartbeat
          rw [if_neg silent, before id earlier earlier_found, same]
    | missed id session publishes found same sign =>
        constructor
        · intro after other held other_publishes other_found
          obtain ⟨_, _, _, _, read⟩ := publishes
          obtain ⟨_, _, _, _, other_read⟩ := other_publishes
          obtain ⟨rfl, -⟩ := Request.stateSet.inj (Except.ok.inj (read.symm.trans other_read))
          have shown := after id held (same ▸ other_found)
          rw [last, if_pos sign] at shown
          exact (Option.some.inj shown).symm
        · intro punctual other held stored
          rw [same] at stored
          rw [last]
          split
          next signs =>
            obtain rfl := Option.some.inj (sign.symm.trans signs)
            rw [punctual id held publishes stored]
          next => exact before other held stored

end Signs

section Silent

attribute [local instance] Chrono.utc

/-- An agent registers and publishes what it works on five seconds later. -/
def publishingCalls : List Call := [
  ⟨"session.register", .object [("pid", .u64 1)], .ofSeconds 0 "a"⟩,
  ⟨"state.set", .object [("session_id", .string "sess_a"), ("status", .string "working")],
    .ofSeconds 5 "b"⟩]

theorem not_showsLife_publishingCalls : ¬ShowsLife publishingCalls := by
  intro shows
  have latest := shows publishingCalls (List.prefix_refl _) "sess_a"
    (newSession (.ofSeconds 0 "a") 1 (.custom "custom") ⟨"/"⟩ []) rfl
  revert latest
  decide +kernel

end Silent

end TeamComm
