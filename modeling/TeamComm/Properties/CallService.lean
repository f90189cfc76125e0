import TeamComm.Properties.ClientPairing
import TeamComm.Properties.ErrorPaths

/-!
# Where a call is served

A call which returns an answer has been processed by the daemon at one point of the run, behind the
point where the client began it.
-/

namespace TeamComm

open Json (Value)

/-! ## What a client reports -/

theorem ok_of_reported {output : Except Failure Value} {value : Value}
    (reported : Client.reported output = .ok value) : output = .ok value := by
  rcases output with ⟨error | message⟩ | result
  · cases reported
  · cases reported
  · exact congrArg Except.ok (Except.ok.inj reported)

theorem error_of_reported {output : Except Failure Value} {code : Int} {message : String}
    (reported : Client.reported output = .error (.daemon code message)) :
    ∃ error : TeamcommError, output = .error (.error error) ∧ code = error.rpcCode.toInt ∧
      message = error.display := by
  rcases output with ⟨error | panicked⟩ | result
  · obtain ⟨rfl, rfl⟩ := ClientError.daemon.inj (Except.error.inj reported)
    exact ⟨error, rfl, rfl, rfl⟩
  · cases reported
  · cases reported

/-! ## Passes of the task -/

section Runs

variable [Chrono] [SerdeText] {start state : Link} {front earlier : List LinkEvent}
  {call : MethodCall} {env : Env} {event : LinkEvent}

/-- The client begins a call behind `before`, and has waited for it ever since. -/
structure Awaits (start : Link) (front : List LinkEvent) (call : MethodCall)
    (before : List LinkEvent) : Prop where
  begun : before ++ [.call call none] <+: front
  idle : (link.run start before).client = .idle
  waits : ∀ part, before ++ .call call none :: part <+: front →
    (link.run start (before ++ .call call none :: part)).client = .waiting call

/-- The task has made one pass since the client began a call: over its request, behind `earlier`. -/
structure ServedOnce (start : Link) (front : List LinkEvent) (call : MethodCall)
    (earlier : List LinkEvent) (env : Env) : Prop where
  awaited : ∃ before between, earlier = before ++ .call call none :: between ∧
    Awaits start front call before
  here : earlier ++ [.process env] <+: front
  unserved : (link.run start earlier).passes = []
  served : ∀ part, earlier ++ .process env :: part <+: front →
    (link.run start (earlier ++ .process env :: part)).passes =
      [connection.transition (link.run start earlier).state (requestText call, env)]
  after : (link.run start (earlier ++ [.process env])).state =
    (connection.transition (link.run start earlier).state (requestText call, env)).after

theorem Awaits.snoc {before : List LinkEvent} (awaits : Awaits start front call before)
    (waiting : (link.run start (front ++ [event])).client = .waiting call) :
    Awaits start (front ++ [event]) call before where
  begun := awaits.begun.trans (List.prefix_append _ _)
  idle := awaits.idle
  waits part inside := by
    rcases List.prefix_concat_iff.mp inside with whole | earlier
    · rw [whole]
      exact waiting
    · exact awaits.waits part earlier

theorem ServedOnce.snoc (served : ServedOnce start front call earlier env)
    (waiting : (link.run start (front ++ [event])).client = .waiting call)
    (passes : (link.run start (front ++ [event])).passes = (link.run start front).passes) :
    ServedOnce start (front ++ [event]) call earlier env where
  awaited := by
    obtain ⟨before, between, split, awaits⟩ := served.awaited
    exact ⟨before, between, split, awaits.snoc waiting⟩
  here := served.here.trans (List.prefix_append _ _)
  unserved := served.unserved
  served part inside := by
    rcases List.prefix_concat_iff.mp inside with whole | earlier
    · obtain ⟨later, rfl⟩ := served.here
      rw [whole, passes, List.append_assoc]
      exact served.served later (by simp)
    · exact served.served part earlier
  after := served.after

/-- A call is served at one point only. -/
theorem ServedOnce.unique {other : List LinkEvent} {env' : Env}
    (served : ServedOnce start front call earlier env)
    (again : ServedOnce start front call other env') : earlier = other ∧ env = env' := by
  -- Behind the point of the one, the passes are not empty any more.
  have not_behind {one two : List LinkEvent} {here there : Env}
      (first : ServedOnce start front call one here)
      (second : ServedOnce start front call two there)
      (part : List LinkEvent) : one ++ .process here :: part ≠ two := by
    rintro rfl
    have some_pass := first.served part ((List.prefix_append _ _).trans second.here)
    rw [second.unserved] at some_pass
    cases some_pass
  have same_length : earlier.length = other.length := by
    rcases List.prefix_or_prefix_of_prefix served.here again.here with inside | inside
    · rcases List.prefix_concat_iff.mp inside with same | ⟨part, behind⟩
      · simpa using congrArg List.length same
      · exact absurd (by simpa using behind) (not_behind served again part)
    · rcases List.prefix_concat_iff.mp inside with same | ⟨part, behind⟩
      · simpa using (congrArg List.length same).symm
      · exact absurd (by simpa using behind) (not_behind again served part)
  have same := List.prefix_of_prefix_length_le served.here again.here (by simp [same_length])
  obtain ⟨rfl, event⟩ := List.append_inj (same.eq_of_length (by simp [same_length])) same_length
  simpa using event

/-- What an event may do to a call which the client waits for behind it. -/
inductive WaitingStep (state : Link) (event : LinkEvent) (after : Link) (call : MethodCall) : Prop
  | begins (idle : state.client = .idle) (begun : event = .call call none)
      (passes : after.passes = [])
  | waits (waiting : state.client = .waiting call) (passes : after.passes = state.passes)
  | serves (waiting : state.client = .waiting call) (env : Env) (processed : event = .process env)
      (unserved : state.passes = [])
      (passes : after.passes = [connection.transition state.state (requestText call, env)])
      (here : after.state = (connection.transition state.state (requestText call, env)).after)

/-- The task makes a pass over the request of the call, and over nothing else. -/
theorem waitingStep_process (inStep : state.InStep) (waiting : state.client = .waiting call)
    (env : Env) : WaitingStep state (.process env) (state.process env) call := by
  have unchanged : state.process env = state →
      WaitingStep state (.process env) (state.process env) call := by
    intro same
    rw [same]
    exact .waits waiting rfl
  cases inStep with
  | idle client | ended client | lost client =>
      rw [client] at waiting
      cases waiting
  | asked running client task requests replies passes =>
      rw [client] at waiting
      obtain rfl := ClientPhase.waiting.inj waiting
      rw [process_asked task requests passes env]
      refine .serves client env rfl passes ?_ ?_
      · dsimp only
      · dsimp only
  | unanswered running client task requests replies =>
      exact unchanged (by simp [Link.process, client, task, requests, ClientPhase.isLost])
  | answering running reply client task requests replies answered =>
      exact unchanged (by simp [Link.process, task])
  | answered running envelope client task requests replies answered =>
      exact unchanged (by simp [Link.process, client, task, requests, ClientPhase.isLost])
  | broken running client task replies => exact unchanged (by simp [Link.process, task])

theorem waitingStep_step (inStep : state.InStep) (event : LinkEvent)
    (waiting : (link.step state event).2.client = .waiting call) :
    WaitingStep state event (link.step state event).2 call := by
  cases event with
  | call other fault =>
      change (state.begin other fault).2.client = _ at waiting
      change WaitingStep _ _ (state.begin other fault).2 _
      cases client : state.client with
      | waiting running =>
          rw [Link.begin_waiting client] at waiting ⊢
          exact .waits waiting rfl
      | lost =>
          rw [Link.begin_lost client] at waiting ⊢
          exact .waits waiting rfl
      | idle =>
          unfold Link.begin at waiting ⊢
          rw [client] at waiting ⊢
          cases fault with
          | some => cases waiting
          | none =>
              obtain rfl := ClientPhase.waiting.inj waiting
              exact .begins client rfl rfl
  | receive buffered =>
      change (state.receive buffered).2.client = _ at waiting
      change WaitingStep _ _ (state.receive buffered).2 _
      unfold Link.receive at waiting ⊢
      split at waiting
      next =>
        split at waiting
        next =>
          dsimp only at waiting
          split at waiting
          · cases waiting
          · cases waiting
        next idle => exact .waits waiting (by rw [if_neg idle])
      next => exact .waits waiting rfl
  | readFails =>
      simp only [link] at waiting ⊢
      split at waiting
      · cases waiting
      · exact .waits waiting rfl
  | process env =>
      exact waitingStep_process inStep ((state.process_client env).symm.trans waiting) env
  | flush fault =>
      refine .waits ((state.flush_client fault).symm.trans waiting) ?_
      change (state.flush fault).passes = state.passes
      unfold Link.flush
      split <;> rfl
  | hangup => exact .waits waiting rfl
  | meanwhile other => exact .waits waiting rfl

/-- A client which returns nothing goes on with its call. -/
theorem waiting_of_none (client : state.client = .waiting call) {event : LinkEvent}
    (nothing : (link.step state event).1 = none) :
    (link.step state event).2.client = .waiting call := by
  cases event with
  | call other fault =>
      change (state.begin other fault).2.client = _
      rw [Link.begin_waiting client]
      exact client
  | receive buffered =>
      change (state.receive buffered).1 = _ at nothing
      change (state.receive buffered).2.client = _
      unfold Link.receive at nothing ⊢
      rw [client] at nothing ⊢
      dsimp only at nothing ⊢
      split_ifs at nothing ⊢
      exact client
  | readFails =>
      simp only [link, client] at nothing
      cases nothing
  | process env => exact (state.process_client env).trans client
  | flush fault => exact (state.flush_client fault).trans client
  | hangup => exact client
  | meanwhile other => exact client

/-- A client which waits has begun its call in the run, and the task has served it at most once
since. -/
structure Begun (start : Link) (front : List LinkEvent) (call : MethodCall) : Prop where
  awaited : ∃ before, Awaits start front call before
  served : (link.run start front).passes = [] ∨
    ∃ earlier env, ServedOnce start front call earlier env

/-- One event behind a run in which the client has begun its calls. -/
theorem begun_snoc (inStep : (link.run start front).InStep)
    (begun : ∀ call, (link.run start front).client = .waiting call → Begun start front call)
    (waiting : (link.run start (front ++ [event])).client = .waiting call) :
    Begun start (front ++ [event]) call := by
  have here : link.run start (front ++ [event]) = (link.step (link.run start front) event).2 :=
    Mealy.run_snoc ..
  have step := waitingStep_step inStep event (here ▸ waiting)
  rw [← here] at step
  cases step with
  | begins idle calls passes =>
      refine ⟨⟨front, ⟨calls ▸ List.prefix_refl _, idle, fun part inside => ?_⟩⟩, .inl passes⟩
      have whole : front ++ .call call none :: part = front ++ [event] := by
        rw [calls] at inside ⊢
        obtain rfl : part = [] := by simpa using inside.length_le
        rfl
      rw [whole]
      exact waiting
  | waits before passes =>
      obtain ⟨⟨first, awaits⟩, served⟩ := begun call before
      refine ⟨⟨first, awaits.snoc waiting⟩, ?_⟩
      rcases served with unserved | ⟨earlier, env, served⟩
      · exact .inl (passes.trans unserved)
      · exact .inr ⟨earlier, env, served.snoc waiting passes⟩
  | serves before env processed unserved passes after =>
      obtain ⟨⟨first, awaits⟩, -⟩ := begun call before
      obtain ⟨between, split⟩ := awaits.begun
      refine ⟨⟨first, awaits.snoc waiting⟩, .inr ⟨front, env, ?_⟩⟩
      subst processed
      refine ⟨⟨first, between, ?_, awaits.snoc waiting⟩, List.prefix_refl _, unserved, ?_, after⟩
      · simpa using split.symm
      · intro part inside
        obtain rfl : part = [] := by simpa using inside.length_le
        exact passes

theorem begun_run (state : AppStateInner) (front : List LinkEvent) :
    (link.run (.connected state) front).client = .waiting call →
      Begun (.connected state) front call := by
  induction front using List.reverseRecOn generalizing call with
  | nil => exact fun waiting => (by cases waiting)
  | append_singleton front event ih =>
      exact fun waiting => begun_snoc (inStep_run state front) (fun _ => ih) waiting

/-- The call which returns is the one the client has waited for. -/
theorem call_of_returned (client : state.client = .waiting call) {event : LinkEvent}
    {finished : Finished} (returned : (link.step state event).1 = some finished) :
    finished.call = call ∧ finished.passes = state.passes := by
  cases event with
  | call other fault =>
      change (state.begin other fault).1 = _ at returned
      rw [Link.begin_waiting client] at returned
      cases returned
  | receive buffered =>
      change (state.receive buffered).1 = _ at returned
      unfold Link.receive at returned
      rw [client] at returned
      dsimp only at returned
      split_ifs at returned
      all_goals
        obtain rfl := Option.some.inj returned
        exact ⟨rfl, rfl⟩
  | readFails =>
      simp only [link, client] at returned
      obtain rfl := Option.some.inj returned
      exact ⟨rfl, rfl⟩
  | process env => cases returned
  | flush fault => cases returned
  | hangup => cases returned
  | meanwhile other => cases returned

/-- A call which returns an answer has been waited for. -/
theorem waiting_of_answer {event : LinkEvent} {finished : Finished}
    (returned : (link.step state event).1 = some finished) (answer : IsAnswer finished.outcome) :
    state.client = .waiting finished.call ∧ finished.passes = state.passes := by
  obtain failed | ⟨-, error, failed, kinds⟩ | ⟨buffered, line, rfl, -⟩ := returned_cases returned
  · rw [failed] at answer
    exact False.elim answer
  · rw [failed] at answer
    simp only [List.mem_cons, List.not_mem_nil, or_false] at kinds
    rcases kinds with rfl | rfl | rfl <;> exact False.elim answer
  · change (state.receive buffered).1 = _ at returned
    unfold Link.receive at returned
    split at returned
    next running client =>
      split at returned
      next =>
        dsimp only at returned
        split at returned
        all_goals
          obtain rfl := Option.some.inj returned
          exact ⟨client, rfl⟩
      next => cases returned
    next => cases returned

/-! ## What is answered -/

/-- A pass which is answered with an error changes nothing. -/
theorem unchanged_of_error {before : AppStateInner} {line : String × Env} {envelope : Value}
    {error : ClientError} (replied : (connection.transition before line).output = .reply envelope)
    (failed : Client.readReply envelope = .error error) :
    (connection.transition before line).after = before := by
  rw [Mealy.transition, connection_step] at replied ⊢
  cases request : requestCall line with
  | none => exact processLine_other line.2 before request
  | some addressed =>
      obtain ⟨id, call⟩ := addressed
      rw [processLine_request line.2 before request] at replied ⊢
      dsimp only at replied ⊢
      cases output : (daemon.step before call).1 with
      | ok result =>
          rw [output] at replied
          obtain rfl := LineOutcome.reply.inj replied
          rw [Client.readReply_successEnvelope] at failed
          cases failed
      | error failure => exact daemon_error_frame output

/-- The daemon answers a call, from one state to another: its connection replies to the request, and
the call returns what the reply says.  A request which is taken for what it is has been executed,
unless it is too long; one which is answered with an error has changed nothing. -/
structure Executes (call : MethodCall) (env : Env) (before after : AppStateInner)
    (outcome : Except ClientError Value) : Prop where
  replied : ∃ envelope,
    (connection.transition before (requestText call, env)).output = .reply envelope ∧
      outcome = Client.readReply envelope
  leaves : after = (connection.transition before (requestText call, env)).after
  reported : Understood call → outcome = Client.reported (computed call env before)
  executed : Understood call → ∀ value, outcome = .ok value →
    (dispatch call.method call.params env).exec before = (.ok value, after)
  refused : ∀ error, outcome = .error error → after = before

/-- What the daemon computes for the request of a call, and the state it leaves behind. -/
theorem served_call (understood : Understood call) (small : ¬Oversize (requestText call))
    (env : Env) (before : AppStateInner) :
    (computed call env before, (connection.transition before (requestText call, env)).after) =
      (dispatch call.method call.params env).exec before := by
  have request := requestCall_requestText (understood.resolve_right small) small env
  rw [Mealy.transition, connection_step, processLine_request env before request, computed,
    if_neg small]
  rfl

theorem executes_of_reply {before : AppStateInner} {envelope : Value}
    (replied : (connection.transition before (requestText call, env)).output = .reply envelope) :
    Executes call env before (connection.transition before (requestText call, env)).after
      (Client.readReply envelope) where
  replied := ⟨envelope, replied, rfl⟩
  leaves := rfl
  reported understood := readReply_understood understood replied
  executed understood value answered := by
    have succeeds := ok_of_reported ((readReply_understood understood replied).symm.trans answered)
    have small : ¬Oversize (requestText call) := by
      intro oversize
      rw [computed, if_pos oversize] at succeeds
      cases succeeds
    rw [← served_call understood small env before, succeeds]
  refused _ failed := unchanged_of_error replied failed

/-- A call which returns an answer has been served once since it began, and returns what the daemon
has answered there. -/
theorem served_of_answer (state : AppStateInner) {front : List LinkEvent} {event : LinkEvent}
    {finished : Finished}
    (returned : (link.step (link.run (.connected state) front) event).1 = some finished)
    (answer : IsAnswer finished.outcome) :
    ∃ earlier env, ServedOnce (.connected state) front finished.call earlier env ∧
      Executes finished.call env (link.run (.connected state) earlier).state
        (link.run (.connected state) (earlier ++ [.process env])).state finished.outcome := by
  obtain ⟨waiting, passes⟩ := waiting_of_answer returned answer
  obtain ⟨env, before, envelope, single, replied, outcome, -⟩ :=
    paired_step (inStep_run state front) returned answer
  rw [passes] at single
  rcases (begun_run state front waiting).served with unserved | ⟨earlier, other, served⟩
  · rw [unserved] at single
    cases single
  obtain ⟨later, split⟩ := served.here
  have here := served.served later (by simp [← split])
  rw [show earlier ++ .process other :: later = front by simp [← split], single] at here
  have same := List.singleton_injective here
  obtain rfl : before = (link.run (.connected state) earlier).state :=
    congrArg Mealy.Transition.before same
  obtain rfl : env = other := congrArg (fun pass => pass.event.2) same
  refine ⟨earlier, env, served, ?_⟩
  rw [served.after, outcome]
  exact executes_of_reply replied

end Runs

end TeamComm
