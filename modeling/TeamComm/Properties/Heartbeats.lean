import TeamComm.Daemon.Refresh

/-!
# Heartbeats

A handler writes the clock reading it took before it had the lock.  The last heartbeat of a session
never decreases as long as the handlers take the lock in the order of their readings.
-/

namespace TeamComm

namespace RefreshEvent

variable {id : String} {pid : UInt32}

/-- The clock reading of an event. -/
def reading : RefreshEvent id pid → Option DateTime
  | sample _ refresh => some refresh.now
  | update _ => none

end RefreshEvent

/-- One step of the handlers of a session. -/
abbrev RefreshStep (id : String) (pid : UInt32) :=
  Mealy.Transition (RefreshState id pid) (RefreshEvent id pid) (Option (Except Failure Json.Value))

section Runs

variable {id : String} {pid : UInt32}

/-- The clock reading which a handler took that gets the lock. -/
def lockedReading (step : RefreshStep id pid) : Option DateTime :=
  match step.event with
  | .sample .. => none
  | .update task => (step.before.waiting task).map Refresh.now

/-- The last heartbeat of the session. -/
def RefreshState.lastHeartbeat (state : RefreshState id pid) : Option DateTime :=
  (state.inner.sessions.get id).map Session.lastHeartbeat

/-- From one reached state to the next the last heartbeat of the session never decreases. -/
def NeverDecreases (start : RefreshState id pid) (events : List (RefreshEvent id pid)) : Prop :=
  ∀ step ∈ (refreshing id pid).trace start events,
    ∀ old ∈ step.before.lastHeartbeat, ∀ new ∈ step.after.lastHeartbeat, old ≤ new

/-- The handlers take the lock in the order of the clock readings they have taken. -/
def LockedInOrder (start : RefreshState id pid) (events : List (RefreshEvent id pid)) : Prop :=
  (((refreshing id pid).trace start events).filterMap lockedReading).Pairwise (· ≤ ·)

/-- No handler has started. -/
def RefreshState.quiet (inner : AppStateInner) : RefreshState id pid := ⟨inner, fun _ => none⟩

/-- A step overwrites the last heartbeat with the clock reading of the handler it lets in. -/
theorem sessionOf_step {state : RefreshState id pid} {session : Session}
    (bound : sessionOf state.inner pid = some (id, session)) (event : RefreshEvent id pid) :
    sessionOf ((refreshing id pid).step state event).2.inner pid =
      some (id, { session with
        lastHeartbeat := (lockedReading ((refreshing id pid).transition state event)).getD
          session.lastHeartbeat }) := by
  cases event with
  | sample task refresh => exact bound
  | update task =>
      change _ = some (id, { session with
        lastHeartbeat := ((state.waiting task).map Refresh.now).getD session.lastHeartbeat })
      cases waits : state.waiting task with
      | none => rwa [step_update_none waits]
      | some refresh =>
          obtain ⟨indexed, stored⟩ := sessionOf_eq_some.mp bound
          rw [step_update_some waits, refresh.exec_underLock bound]
          refine sessionOf_eq_some.mpr ⟨indexed, ?_⟩
          rw [HashMap.get_insert, if_pos rfl]
          rfl

/-- The session stays where it is. -/
theorem sessionOf_run {start : RefreshState id pid} {session : Session}
    (bound : sessionOf start.inner pid = some (id, session)) (events : List (RefreshEvent id pid)) :
    ∃ later, sessionOf ((refreshing id pid).run start events).inner pid = some (id, later) := by
  have preserve : ∀ state event, (∃ later, sessionOf state.inner pid = some (id, later)) →
      ∃ later, sessionOf ((refreshing id pid).step state event).2.inner pid = some (id, later) := by
    rintro state event ⟨later, found⟩
    exact ⟨_, sessionOf_step found event⟩
  exact Mealy.invariant ⟨session, bound⟩ preserve events

/-- A handler which waits has read the clock in the run. -/
theorem waiting_run {inner : AppStateInner} {events : List (RefreshEvent id pid)} {task : Nat}
    {refresh : Refresh id pid}
    (waits : ((refreshing id pid).run (.quiet inner) events).waiting task = some refresh) :
    refresh.now ∈ events.filterMap RefreshEvent.reading := by
  induction events using List.reverseRecOn generalizing task refresh with
  | nil => cases waits
  | append_singleton events event ih =>
      rw [Mealy.run_snoc] at waits
      rw [List.filterMap_append, List.mem_append]
      cases event with
      | sample other sampled =>
          rw [step_sample] at waits
          dsimp only at waits
          by_cases same : task = other
          · rw [same, Function.update_self] at waits
            obtain rfl := Option.some.inj waits
            exact .inr List.mem_cons_self
          · rw [Function.update_of_ne same] at waits
            exact .inl (ih waits)
      | update other =>
          refine .inl (@ih task refresh ?_)
          cases locked : ((refreshing id pid).run (.quiet inner) events).waiting other with
          | none => rwa [step_update_none locked] at waits
          | some refreshed =>
              rw [step_update_some locked] at waits
              dsimp only at waits
              by_cases same : task = other
              · rw [same, Function.update_self] at waits
                cases waits
              · rwa [Function.update_of_ne same] at waits

/-- What is written is a clock reading of the run. -/
theorem lockedReading_mem {inner : AppStateInner} {events : List (RefreshEvent id pid)}
    {instant : DateTime}
    (member : instant ∈ ((refreshing id pid).trace (.quiet inner) events).filterMap lockedReading) :
    instant ∈ events.filterMap RefreshEvent.reading := by
  obtain ⟨step, step_member, locked⟩ := List.mem_filterMap.mp member
  obtain ⟨front, event, back, rfl, rfl⟩ := Mealy.mem_trace.mp step_member
  rw [List.filterMap_append, List.mem_append]
  cases event with
  | sample task refresh => cases locked
  | update task =>
      obtain ⟨refresh, waits, rfl⟩ := Option.map_eq_some_iff.mp locked
      exact .inl (waiting_run waits)

/-- Under a clock which never decreases, the last heartbeat of a session never decreases exactly
when the handlers take the lock in the order of their clock readings. -/
theorem neverDecreases_iff {inner : AppStateInner} {session : Session}
    {events : List (RefreshEvent id pid)} (bound : sessionOf inner pid = some (id, session))
    (clock : (session.lastHeartbeat :: events.filterMap RefreshEvent.reading).Pairwise (· ≤ ·)) :
    NeverDecreases (.quiet inner) events ↔ LockedInOrder (.quiet inner) events := by
  have start_bound : sessionOf (RefreshState.quiet inner : RefreshState id pid).inner pid =
      some (id, session) := bound
  have shown : ∀ {state : RefreshState id pid} {session : Session},
      sessionOf state.inner pid = some (id, session) →
      state.lastHeartbeat = some session.lastHeartbeat := fun found =>
    congrArg (Option.map Session.lastHeartbeat) (sessionOf_eq_some.mp found).2
  have follows : ∀ step ∈ (refreshing id pid).trace (.quiet inner) events, ∀ old,
      step.before.lastHeartbeat = some old →
      step.after.lastHeartbeat = some ((lockedReading step).getD old) := by
    intro step member old found
    obtain ⟨front, event, back, rfl, rfl⟩ := Mealy.mem_trace.mp member
    obtain ⟨before, before_bound⟩ := sessionOf_run start_bound front
    obtain rfl := Option.some.inj ((shown before_bound).symm.trans found)
    exact shown (sessionOf_step before_bound event)
  have first :
      ∀ instant ∈ ((refreshing id pid).trace (.quiet inner) events).filterMap lockedReading,
      session.lastHeartbeat ≤ instant := fun instant member =>
    (List.pairwise_cons.mp clock).1 instant (lockedReading_mem member)
  refine (Mealy.never_decreases_iff (shown start_bound) follows).trans ?_
  rw [List.pairwise_cons]
  exact and_iff_right first

end Runs

section Overtaking

attribute [local instance] Chrono.utc

/-- A session which was registered at the first second. -/
def overtakenState : AppStateInner :=
  daemon.run newState [⟨"session.register", .object [("pid", .u64 7)], .ofSeconds 1 "a"⟩]

/-- A heartbeat of the session with a clock reading. -/
def heartbeatAt (env : Env) : Refresh "sess_a" 7 :=
  .heartbeat env (.object [("session_id", .string "sess_a")]) (by decide)

/-- The handler which reads the clock last takes the lock first. -/
def overtakenEvents : List (RefreshEvent "sess_a" 7) := [
  .sample 1 (heartbeatAt (.ofSeconds 2 "b")), .sample 2 (heartbeatAt (.ofSeconds 3 "c")),
  .update 2, .update 1]

/-- The session which was registered. -/
def overtakenSession : Session := newSession (.ofSeconds 1 "a") 7 (.custom "custom") ⟨"/"⟩ []

theorem overtaken_bound : sessionOf overtakenState 7 = some ("sess_a", overtakenSession) := rfl

theorem overtaken_clock :
    (overtakenSession.lastHeartbeat :: overtakenEvents.filterMap RefreshEvent.reading).Pairwise
      (· ≤ ·) := by
  decide

theorem neverDecreases_iff_overtaken :
    NeverDecreases (.quiet overtakenState) overtakenEvents ↔
      LockedInOrder (.quiet overtakenState) overtakenEvents :=
  neverDecreases_iff overtaken_bound overtaken_clock

theorem not_neverDecreases_overtaken :
    (overtakenSession.lastHeartbeat :: overtakenEvents.filterMap RefreshEvent.reading).Pairwise
        (· ≤ ·) ∧
      ¬NeverDecreases (.quiet overtakenState) overtakenEvents := by
  refine ⟨overtaken_clock, fun never => ?_⟩
  have last := never _ (List.mem_of_getLast? rfl) _ rfl _ rfl
  exact absurd last (by decide)

end Overtaking

end TeamComm
