import TeamComm.Client.Link
import TeamComm.Properties.ConnectionLoop

/-!
# Calls and their replies

A client which reuses its connection never looks at the id of a response.  What keeps each response
with its call is that the task of the connection answers a request with one line, or with none when
it ends, and that the client gives up its stream whenever it stops short of that line.
-/

namespace TeamComm

open Json (Value)

/-- The daemon answers a request with an object which says what it has computed, or its task
dies. -/
theorem answer_cases (id : RpcId) (output : Except Failure Value) :
    (∃ members, answer id output = .reply (.object members) ∧
      Client.readReply (.object members) = Client.reported output) ∨ answer id output = .dies := by
  rcases output with ⟨error | message⟩ | result
  · exact .inl ⟨_, rfl, Client.readReply_errorEnvelope id error⟩
  · exact .inr rfl
  · exact .inl ⟨_, rfl, Client.readReply_successEnvelope id result⟩

section Lines

variable [SerdeText]

/-! ## Requests -/

/-- A request as the task of the connection reads it. -/
def requestText (call : MethodCall) : String := String.ofList (requestLine call)

theorem trim_requestText (call : MethodCall) :
    trim (requestText call) = SerdeJson.toString (Client.request call) := by
  obtain ⟨inner, braced⟩ : ∃ inner, SerdeJson.toString (Client.request call) =
      String.singleton '\x7b' ++ inner ++ String.singleton '\x7d' := SerdeText.braces _
  have opened : isWhitespace '\x7b' = false := by decide
  have closed : isWhitespace '\x7d' = false := by decide
  have newline : isWhitespace '\n' = true := by decide
  apply String.ext
  simp [trim, requestText, requestLine, braced, opened, closed, newline]

theorem requestOf_requestText {call : MethodCall} (readable : (Client.request call).Readable) :
    requestOf (requestText call) =
      some {
        jsonrpc := "2.0"
        id := some (.number 1)
        method := call.method
        params := call.params } := by
  have id : optionField RpcId.deserialize (some (Value.u64 1).doc) = some (some (.number 1)) :=
    congrArg (Option.map some) (RpcId.deserialize_toValue (.number 1))
  rw [requestOf, trim_requestText, SerdeValues.fromStr_toString _ readable, Option.bind_some,
    Client.request, JsonRpcRequest.deserialize, structFields_object]
  simp [Value.get_object, Json.lookup_cons_eq_ite, id]

theorem not_blank_requestText (call : MethodCall) : ¬Blank (requestText call) := by
  intro blank
  obtain ⟨inner, braced⟩ : ∃ inner, SerdeJson.toString (Client.request call) =
      String.singleton '\x7b' ++ inner ++ String.singleton '\x7d' := SerdeText.braces _
  have empty := congrArg String.toList ((trim_requestText call).symm.trans blank)
  rw [braced] at empty
  simp at empty

theorem requestCall_requestText {call : MethodCall} (readable : (Client.request call).Readable)
    (small : ¬Oversize (requestText call)) (env : Env) :
    requestCall (requestText call, env) = some (.number 1, ⟨call.method, call.params, env⟩) := by
  have read := requestOf_requestText readable
  simp [requestCall, parsed, not_blank_requestText, small, read]

/-- The lines of calls dispatch these calls. -/
theorem requestCalls_requestText {calls : List (MethodCall × Env)}
    (readable : ∀ call ∈ calls, (Client.request call.1).Readable)
    (small : ∀ call ∈ calls, ¬Oversize (requestText call.1)) :
    requestCalls (calls.map fun call => (requestText call.1, call.2)) =
      calls.map fun call => ⟨call.1.method, call.1.params, call.2⟩ := by
  induction calls with
  | nil => rfl
  | cons call calls ih =>
      rw [List.forall_mem_cons] at readable small
      rw [List.map_cons, List.map_cons,
        requestCalls_cons_some (requestCall_requestText readable.1 small.1 call.2),
        ih readable.2 small.2]

/-! ## Responses -/

theorem readLine_eq {line : String} {value : Value}
    (read : SerdeJson.fromStr line = some value.doc) :
    Client.readLine line = Client.readReply value := by
  simp only [Client.readLine, read, Value.ofJson_doc]

/-- What has been read of a reply is understood as the whole of it, or not at all. -/
theorem readLine_reply {members : List (String × Value)} {part : List Char}
    (readable : (Value.object members).Readable) (read : part <+: replyLine (.object members)) :
    Client.readLine (String.ofList part) = Client.readReply (.object members) ∨
      Client.readLine (String.ofList part) = .error .parse := by
  rcases List.prefix_concat_iff.mp read with rfl | ⟨back, cut⟩
  · left
    have whole : String.ofList ((SerdeJson.toString (.object members)).toList ++ ['\n']) =
        SerdeJson.toString (.object members) ++ "\n" := by
      apply String.ext
      simp
    exact readLine_eq (whole ▸ SerdeText.fromStr_newline _ readable)
  · have parts :
        SerdeJson.toString (.object members) = String.ofList part ++ String.ofList back := by
      apply String.ext
      simp [cut]
    by_cases complete : String.ofList back = ""
    · left
      rw [complete, String.append_empty] at parts
      exact readLine_eq (parts ▸ SerdeValues.fromStr_toString _ readable)
    · right
      rw [Client.readLine, SerdeText.fromStr_cut members _ _ parts complete]

/-- A call which fails in its write or its read, or finds the end of the stream. -/
def LosesStream : Except ClientError Value → Prop
  | .error .write | .error .read | .error .closed => True
  | _ => False

theorem not_losesStream_readLine (line : String) : ¬LosesStream (Client.readLine line) := by
  unfold Client.readLine
  split
  · unfold Client.readReply
    split <;> exact id
  · exact id

/-! ## Framing -/

theorem newline_mem_replyLine (envelope : Value) : '\n' ∈ replyLine envelope := by
  simp [replyLine]

theorem newline_mem_requestLine (call : MethodCall) : '\n' ∈ requestLine call := by
  simp [requestLine]

theorem readLine_requestLine (call : MethodCall) :
    Lines.readLine (requestLine call) = (requestLine call, []) :=
  Lines.readLine_prefix (SerdeJson.solid _) (List.prefix_refl _)

theorem readLine_replyPart {envelope : Value} {part : List Char}
    (read : part <+: replyLine envelope) :
    Lines.readLine part = (part, []) :=
  Lines.readLine_prefix (SerdeJson.solid _) read

end Lines

section Passes

variable [Chrono] [SerdeText]

/-- What the daemon computes for the request of a call. -/
def computed (call : MethodCall) (env : Env) (state : AppStateInner) : Except Failure Value :=
  if Oversize (requestText call) then
    .error (.error (.invalidParams s!"line exceeds MAX_LINE_BYTES ({maxLineBytes})"))
  else ((dispatch call.method call.params env).exec state).1

/-- The id of the response to a call. -/
def responseId (call : MethodCall) : RpcId :=
  if Oversize (requestText call) then .number 0 else .number 1

/-- The daemon takes the request of a call for what it is: it is within the limits of a reader, or
refused for its length. -/
def Understood (call : MethodCall) : Prop :=
  (Client.request call).Readable ∨ Oversize (requestText call)

theorem output_requestText {call : MethodCall} (understood : Understood call) (env : Env)
    (state : AppStateInner) :
    (connection.transition state (requestText call, env)).output =
      answer (responseId call) (computed call env state) := by
  rw [Mealy.transition, connection_step]
  by_cases oversize : Oversize (requestText call)
  · rw [processLine_oversize env state (not_blank_requestText call) oversize, computed, responseId,
      if_pos oversize, if_pos oversize, answer]
  · have request := requestCall_requestText (understood.resolve_right oversize) oversize env
    rw [processLine_request env state request, computed, responseId, if_neg oversize,
      if_neg oversize, daemon]

/-- The reply to a request says what the daemon has computed for the call. -/
theorem readReply_understood {call : MethodCall} (understood : Understood call) {env : Env}
    {state : AppStateInner} {envelope : Value}
    (replied : (connection.transition state (requestText call, env)).output = .reply envelope) :
    Client.readReply envelope = Client.reported (computed call env state) := by
  rw [output_requestText understood] at replied
  obtain ⟨members, object, meaning⟩ | dies :=
    answer_cases (responseId call) (computed call env state)
  · obtain rfl := LineOutcome.reply.inj (object.symm.trans replied)
    exact meaning
  · rw [replied] at dies
    cases dies

/-! ## Where the two stand -/

/-- The task has processed the request of a call and no other line since the call began, and has
answered it with an envelope. -/
def Link.Answered (state : Link) (call : MethodCall) (envelope : Value) : Prop :=
  ∃ env before, state.passes = [connection.transition before (requestText call, env)] ∧
    (connection.transition before (requestText call, env)).output = .reply envelope

/-- Client and task are in step. -/
inductive Link.InStep (state : Link) : Prop
  /-- No call is running, and nothing is under way. -/
  | idle (client : state.client = .idle) (task : state.task = .reading)
      (requests : state.requests = []) (replies : state.replies = [])
  /-- No call is running, and the task has ended. -/
  | ended (client : state.client = .idle) (task : state.task = .closed)
      (replies : state.replies = [])
  /-- A request is on its way. -/
  | asked (call : MethodCall) (client : state.client = .waiting call) (task : state.task = .reading)
      (requests : state.requests = requestLine call) (replies : state.replies = [])
      (passes : state.passes = [])
  /-- The task takes the request for none, and does not answer it. -/
  | unanswered (call : MethodCall) (client : state.client = .waiting call)
      (task : state.task = .reading) (requests : state.requests = []) (replies : state.replies = [])
  /-- The task is about to write the reply. -/
  | answering (call : MethodCall) (reply : Reply) (client : state.client = .waiting call)
      (task : state.task = .writing reply) (requests : state.requests = [])
      (replies : state.replies = []) (answered : state.Answered call reply.envelope)
  /-- A reply is on its way. -/
  | answered (call : MethodCall) (envelope : Value) (client : state.client = .waiting call)
      (task : state.task = .reading) (requests : state.requests = [])
      (replies : state.replies = replyLine envelope) (answered : state.Answered call envelope)
  /-- The task has ended during a call, and nothing or a part of the reply is on its way. -/
  | broken (call : MethodCall) (client : state.client = .waiting call) (task : state.task = .closed)
      (replies : state.replies = [] ∨
        ∃ envelope, state.Answered call envelope ∧ state.replies <+: replyLine envelope)
  /-- The client has lost its stream. -/
  | lost (client : state.client = .lost)

/-! ## Moves of the client -/

section Client

variable {state : Link} {call : MethodCall}

theorem inStep_begin (inStep : state.InStep) (call : MethodCall) (fault : Option Nat) :
    (state.begin call fault).2.InStep := by
  cases inStep with
  | idle client task requests replies =>
      unfold Link.begin
      rw [client]
      cases fault with
      | none => exact .asked call rfl task (by simp [requests, written]) replies rfl
      | some _ => exact .lost rfl
  | ended client task replies =>
      unfold Link.begin
      rw [client]
      cases fault with
      | none => exact .broken call rfl task (.inl replies)
      | some _ => exact .lost rfl
  | asked running client task requests replies passes =>
      rw [Link.begin_waiting client]
      exact .asked running client task requests replies passes
  | unanswered running client task requests replies =>
      rw [Link.begin_waiting client]
      exact .unanswered running client task requests replies
  | answering running reply client task requests replies answered =>
      rw [Link.begin_waiting client]
      exact .answering running reply client task requests replies answered
  | answered running envelope client task requests replies answered =>
      rw [Link.begin_waiting client]
      exact .answered running envelope client task requests replies answered
  | broken running client task replies =>
      rw [Link.begin_waiting client]
      exact .broken running client task replies
  | lost client =>
      rw [Link.begin_lost client]
      exact .lost client

/-- A call returns with a result or with an error of the daemon. -/
def IsAnswer : Except ClientError Value → Prop
  | .ok _ => True
  | .error (.daemon ..) => True
  | .error _ => False

instance (outcome : Except ClientError Value) : Decidable (IsAnswer outcome) :=
  match outcome with
  | .ok _ | .error (.daemon ..) => isTrue trivial
  | .error .noStream | .error .write | .error .read | .error .closed | .error .parse => isFalse id

/-- The outcome of a call is what its reply says: the connection has processed its request and no
other line since the call began, and has replied to it with what the daemon has computed. -/
def Finished.Paired (finished : Finished) : Prop :=
  ∃ env before envelope,
    finished.passes = [connection.transition before (requestText finished.call, env)] ∧
    (connection.transition before (requestText finished.call, env)).output = .reply envelope ∧
    finished.outcome = Client.readReply envelope ∧
    (Understood finished.call →
      finished.outcome = Client.reported (computed finished.call env before))

/-- What a move of the client leads to, and what its call returns. -/
def Settles (moved : Option Finished × Link) : Prop :=
  moved.2.InStep ∧ ∀ finished, moved.1 = some finished → IsAnswer finished.outcome → finished.Paired

/-- A client which reads a part of a reply understands the whole of it, or gets no answer. -/
theorem settles_part (client : state.client = .waiting call) {envelope : Value}
    (ready : '\n' ∈ state.replies ∨ state.task.isClosed = true)
    (task : state.task = .reading ∧ state.requests = [] ∨ state.task = .closed)
    (read : state.replies <+: replyLine envelope) (some_part : state.replies ≠ [])
    (answered : state.Answered call envelope) (buffered : Nat) :
    Settles (state.receive buffered) := by
  have received : state.receive buffered =
      (some ⟨call, Client.readLine (String.ofList state.replies), state.passes⟩,
        { state with client := .idle, replies := [] }) := by
    simp [Link.receive, client, ready, readLine_replyPart read, some_part]
  rw [received]
  constructor
  · rcases task with ⟨reading, requests⟩ | closed
    · exact .idle rfl reading requests rfl
    · exact .ended rfl closed rfl
  · rintro finished same answer
    obtain rfl := Option.some.inj same
    obtain ⟨env, before, passes, replied⟩ := answered
    obtain ⟨members, rfl, readable⟩ := readable_output replied
    have meaning (understood : Understood call) := readReply_understood understood replied
    rcases readLine_reply readable read with whole | cut
    · exact ⟨env, before, _, passes, replied, whole, fun understood =>
        whole.trans (meaning understood)⟩
    · dsimp only at answer
      rw [cut] at answer
      exact False.elim answer

theorem settles_receive (inStep : state.InStep) (buffered : Nat) :
    Settles (state.receive buffered) := by
  have unchanged : state.receive buffered = (none, state) → Settles (state.receive buffered) := by
    intro same
    rw [same]
    exact ⟨inStep, nofun⟩
  cases inStep with
  | idle client task requests replies => exact unchanged (by simp [Link.receive, client])
  | ended client task replies => exact unchanged (by simp [Link.receive, client])
  | asked running client task requests replies passes =>
      exact unchanged (by simp [Link.receive, client, task, replies, Phase.isClosed])
  | unanswered running client task requests replies =>
      exact unchanged (by simp [Link.receive, client, task, replies, Phase.isClosed])
  | answering running reply client task requests replies answered =>
      exact unchanged (by simp [Link.receive, client, task, replies, Phase.isClosed])
  | answered running envelope client task requests replies answered =>
      have newline : '\n' ∈ state.replies := replies ▸ newline_mem_replyLine envelope
      exact settles_part client (.inl newline) (.inl ⟨task, requests⟩)
        (replies ▸ List.prefix_refl _) (List.ne_nil_of_mem newline) answered buffered
  | broken running client task replies =>
      have ready : state.task.isClosed = true := by rw [task]; rfl
      by_cases empty : state.replies = []
      · have received : state.receive buffered =
            (some ⟨running, .error .closed, state.passes⟩, { state with client := .lost }) := by
          simp [Link.receive, client, ready, empty, Lines.readLine]
        rw [received]
        refine ⟨.lost rfl, ?_⟩
        rintro finished same answer
        obtain rfl := Option.some.inj same
        exact False.elim answer
      · obtain ⟨envelope, answered, read⟩ := replies.resolve_left empty
        exact settles_part client (.inr ready) (.inr task) read empty answered buffered
  | lost client => exact unchanged (by simp [Link.receive, client])

end Client

/-! ## Moves of the task -/

section Task

variable {state : Link}

/-- The task processes the request of a call. -/
theorem process_asked {call : MethodCall} (task : state.task = .reading)
    (requests : state.requests = requestLine call) (passes : state.passes = []) (env : Env) :
    state.process env =
      { state with
        state := (connection.transition state.state (requestText call, env)).after
        task := (connection.transition state.state (requestText call, env)).output.phase
          (requestText call, env)
        requests := []
        passes := [connection.transition state.state (requestText call, env)] } := by
  have newline : '\n' ∈ state.requests := requests ▸ newline_mem_requestLine call
  have nonempty : requestLine call ≠ [] := List.ne_nil_of_mem (newline_mem_requestLine call)
  unfold Link.process
  rw [task]
  dsimp only
  rw [if_pos (.inl newline), requests, readLine_requestLine]
  dsimp only
  rw [if_neg nonempty, passes]
  rfl

theorem inStep_process (inStep : state.InStep) (env : Env) : (state.process env).InStep := by
  have unchanged : state.process env = state → (state.process env).InStep := by
    intro same
    rw [same]
    exact inStep
  cases inStep with
  | idle client task requests replies =>
      exact unchanged (by simp [Link.process, client, task, requests, ClientPhase.isLost])
  | ended client task replies => exact unchanged (by simp [Link.process, task])
  | asked running client task requests replies passes =>
      rw [process_asked task requests passes env]
      cases output : (connection.transition state.state (requestText running, env)).output with
      | silent => exact .unanswered running client rfl rfl replies
      | reply envelope =>
          exact .answering running ⟨(requestText running, env), envelope⟩ client rfl rfl replies
            ⟨env, state.state, rfl, output⟩
      | dies => exact .broken running client rfl (.inl replies)
  | unanswered running client task requests replies =>
      exact unchanged (by simp [Link.process, client, task, requests, ClientPhase.isLost])
  | answering running reply client task requests replies answered =>
      exact unchanged (by simp [Link.process, task])
  | answered running envelope client task requests replies answered =>
      exact unchanged (by simp [Link.process, client, task, requests, ClientPhase.isLost])
  | broken running client task replies => exact unchanged (by simp [Link.process, task])
  | lost client => exact .lost ((state.process_client env).trans client)

theorem inStep_flush (inStep : state.InStep) (fault : Option Nat) :
    (state.flush fault).InStep := by
  have unchanged : state.flush fault = state → (state.flush fault).InStep := by
    intro same
    rw [same]
    exact inStep
  cases inStep with
  | idle client task requests replies => exact unchanged (by simp [Link.flush, task])
  | ended client task replies => exact unchanged (by simp [Link.flush, task])
  | asked running client task requests replies passes =>
      exact unchanged (by simp [Link.flush, task])
  | unanswered running client task requests replies =>
      exact unchanged (by simp [Link.flush, task])
  | answering running reply client task requests replies answered =>
      have flushed : state.flush fault =
          { state with
            task := if fault.isNone then .reading else .closed
            replies := written (replyLine reply.envelope) fault } := by
        simp [Link.flush, task, replies]
      rw [flushed]
      cases fault with
      | none => exact .answered running reply.envelope client rfl requests rfl answered
      | some sent =>
          exact .broken running client rfl
            (.inr ⟨reply.envelope, answered, written_prefix _ (some sent)⟩)
  | answered running envelope client task requests replies answered =>
      exact unchanged (by simp [Link.flush, task])
  | broken running client task replies => exact unchanged (by simp [Link.flush, task])
  | lost client => exact .lost ((state.flush_client fault).trans client)

/-- The task may end at any point. -/
theorem inStep_hangup (inStep : state.InStep) : { state with task := .closed : Link }.InStep := by
  cases inStep with
  | idle client task requests replies => exact .ended client rfl replies
  | ended client task replies => exact .ended client rfl replies
  | asked running client task requests replies passes =>
      exact .broken running client rfl (.inl replies)
  | unanswered running client task requests replies =>
      exact .broken running client rfl (.inl replies)
  | answering running reply client task requests replies answered =>
      exact .broken running client rfl (.inl replies)
  | answered running envelope client task requests replies answered =>
      exact .broken running client rfl (.inr ⟨envelope, answered, replies ▸ List.prefix_refl _⟩)
  | broken running client task replies => exact .broken running client rfl replies
  | lost client => exact .lost client

/-- Other connections do not matter. -/
theorem inStep_state (inStep : state.InStep) (after : AppStateInner) :
    { state with state := after : Link }.InStep := by
  cases inStep with
  | idle client task requests replies => exact .idle client task requests replies
  | ended client task replies => exact .ended client task replies
  | asked running client task requests replies passes =>
      exact .asked running client task requests replies passes
  | unanswered running client task requests replies =>
      exact .unanswered running client task requests replies
  | answering running reply client task requests replies answered =>
      exact .answering running reply client task requests replies answered
  | answered running envelope client task requests replies answered =>
      exact .answered running envelope client task requests replies answered
  | broken running client task replies => exact .broken running client task replies
  | lost client => exact .lost client

end Task

/-! ## Runs -/

/-- An event keeps the two in step. -/
theorem inStep_step {state : Link} (inStep : state.InStep) (event : LinkEvent) :
    (link.step state event).2.InStep := by
  cases event with
  | call call fault => exact inStep_begin inStep call fault
  | receive buffered => exact (settles_receive inStep buffered).1
  | readFails =>
      simp only [link]
      cases client : state.client with
      | waiting running => exact .lost rfl
      | idle => exact inStep
      | lost => exact inStep
  | process env => exact inStep_process inStep env
  | flush fault => exact inStep_flush inStep fault
  | hangup => exact inStep_hangup inStep
  | meanwhile call => exact inStep_state inStep _

/-- A call which returns an answer returns its own. -/
theorem paired_step {state : Link} (inStep : state.InStep) {event : LinkEvent}
    {finished : Finished} (returned : (link.step state event).1 = some finished)
    (answer : IsAnswer finished.outcome) : finished.Paired := by
  obtain failed | ⟨-, error, failed, kinds⟩ | ⟨buffered, line, rfl, -⟩ := returned_cases returned
  · rw [failed] at answer
    exact False.elim answer
  · rw [failed] at answer
    simp only [List.mem_cons, List.not_mem_nil, or_false] at kinds
    rcases kinds with rfl | rfl | rfl <;> exact False.elim answer
  · exact (settles_receive inStep buffered).2 finished returned answer

theorem lost_step {state : Link} (client : state.client = .lost) (event : LinkEvent) :
    (link.step state event).2.client = .lost := by
  cases event with
  | call call fault =>
      change (state.begin call fault).2.client = .lost
      rw [Link.begin_lost client]
      exact client
  | receive buffered => simp only [link, Link.receive, client]
  | readFails => simp only [link, client]
  | process env => exact (state.process_client env).trans client
  | flush fault => exact (state.flush_client fault).trans client
  | hangup => exact client
  | meanwhile call => exact client

theorem lost_of_losesStream {state : Link} {event : LinkEvent} {finished : Finished}
    (returned : (link.step state event).1 = some finished) (loses : LosesStream finished.outcome) :
    (link.step state event).2.client = .lost := by
  obtain failed | ⟨lost, -⟩ | ⟨buffered, line, rfl, understood⟩ := returned_cases returned
  · rw [failed] at loses
    exact False.elim loses
  · exact lost
  · rw [understood] at loses
    exact absurd loses (not_losesStream_readLine line)

theorem inStep_run (state : AppStateInner) (events : List LinkEvent) :
    (link.run (.connected state) events).InStep := by
  have initial : (Link.connected state).InStep := .idle rfl rfl rfl rfl
  exact Mealy.invariant initial (fun _ event inStep => inStep_step inStep event) events

/-- A client which has lost its stream never gets it back. -/
theorem lost_run {state : Link} (client : state.client = .lost) (events : List LinkEvent) :
    (link.run state events).client = .lost := by
  induction events generalizing state with
  | nil => exact client
  | cons event events ih => exact ih (lost_step client event)

/-- Calls on one client, one after the other, each return what the daemon has computed for them, or
fail; and once a call has lost the stream, every later one fails without sending anything. -/
theorem calls_paired (state : AppStateInner) (events : List LinkEvent) :
    (∀ step ∈ link.trace (.connected state) events, ∀ finished, step.output = some finished →
      IsAnswer finished.outcome → finished.Paired) ∧
    (link.trace (.connected state) events).Pairwise fun earlier later =>
      ∀ finished, earlier.output = some finished → LosesStream finished.outcome →
        ∀ call fault, later.event = .call call fault →
          later.output = some ⟨call, .error .noStream, []⟩ ∧ later.after = later.before := by
  constructor
  · intro step member finished returned answer
    obtain ⟨front, event, back, rfl, rfl⟩ := Mealy.mem_trace.mp member
    exact paired_step (inStep_run state front) returned answer
  · refine Mealy.pairwise_trace ?_
    rintro front event between later back rfl finished returned loses call fault rfl
    have lost := lost_of_losesStream returned loses
    have still_lost : (link.run (.connected state) (front ++ event :: between)).client = .lost := by
      rw [Mealy.run_append, Mealy.run_cons]
      exact lost_run lost between
    have failed := @Link.begin_lost _ _ call still_lost fault
    exact ⟨congrArg Prod.fst failed, congrArg Prod.snd failed⟩

end Passes

section Listed

attribute [local instance] Chrono.utc

/-- The compact text format, with one text for every error. -/
@[reducible] def compactText : SerdeText :=
  letI := Json.Floats.verbatim
  .compact fun _ => "expected value at line 1 column 1"

attribute [local instance] compactText

/-- A registration and a listing behind it, both answered. -/
def listedEvents : List LinkEvent := [
  .call (Client.sessionRegister 7 "forge" none []) none, .process (.ofSeconds 0 "a"), .flush none,
  .receive 0,
  .call Client.sessionList none, .process (.ofSeconds 1 "b"), .flush none, .receive 0]

theorem calls_paired_listedEvents :
    ∃ step ∈ link.trace (.connected newState) listedEvents, ∃ finished ∈ step.output,
      IsAnswer finished.outcome ∧ finished.Paired := by
  have answered : ∃ step ∈ link.trace (.connected newState) listedEvents,
      ∃ finished ∈ step.output, IsAnswer finished.outcome := by decide +kernel
  obtain ⟨step, member, finished, returned, answer⟩ := answered
  exact ⟨step, member, finished, returned, answer,
    (calls_paired newState listedEvents).1 step member finished returned answer⟩

end Listed

end TeamComm
