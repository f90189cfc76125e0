import TeamComm.Daemon.PlainAnswers

/-!
# Connection loop

What the loop writes for the lines of a connection: one reply for each line which is neither blank
nor a notification, in the order of the lines, and each reply to a request decodes as the typed
envelope which dispatching the request calls for.
-/

namespace TeamComm

open Json (Value)

/-! ## Envelopes -/

@[simp] theorem deserialize_successEnvelope (id : RpcId) (result : Value) :
    JsonRpcResponse.deserialize (Listener.successEnvelope id result).doc =
      some (Handlers.successEnvelope id result) := by
  rw [Listener.successEnvelope, JsonRpcResponse.deserialize, structFields_object]
  simp [Value.get_object, Json.lookup_cons_eq_ite, Handlers.successEnvelope]

@[simp] theorem deserialize_errorObject (error : TeamcommError) :
    JsonRpcError.deserialize (Value.object
      [("code", i32Value error.rpcCode), ("message", .string error.display)]).doc =
      some error.toRpcError := by
  rw [JsonRpcError.deserialize, structFields_object]
  simp [Value.get_object, Json.lookup_cons_eq_ite, TeamcommError.toRpcError, optionField]

@[simp] theorem deserialize_errorEnvelope (id : RpcId) (error : TeamcommError) :
    JsonRpcErrorResponse.deserialize (Listener.errorEnvelope id error).doc =
      some (Handlers.errorEnvelope id error) := by
  rw [Listener.errorEnvelope, JsonRpcErrorResponse.deserialize, structFields_object]
  simp [Value.get_object, Json.lookup_cons_eq_ite, Handlers.errorEnvelope,
    TeamcommError.intoResponse]

/-! ## Lines -/

/-- Nothing is left of a line when it is trimmed. -/
def Blank (line : String) : Prop := trim line = ""

/-- A line is too long to be parsed. -/
def Oversize (line : String) : Prop := maxLineBytes < (trim line).utf8ByteSize

instance (line : String) : Decidable (Blank line) := inferInstanceAs (Decidable (_ = _))

instance (line : String) : Decidable (Oversize line) := inferInstanceAs (Decidable (_ < _))

/-- What one pass through the loop writes. -/
def LineOutcome.envelope : LineOutcome → Option Value
  | .reply envelope => some envelope
  | .silent => none
  | .dies => none

/-- A handler returns, with a result or with an error. -/
def Returns : Except Failure Value → Prop
  | .error (.panic _) => False
  | _ => True

instance (output : Except Failure Value) : Decidable (Returns output) :=
  match output with
  | .ok _ => isTrue trivial
  | .error (.error _) => isTrue trivial
  | .error (.panic _) => isFalse id

section Lines

variable [SerdeJson]

/-- The request which the loop parses from a line, when it gets that far. -/
def parsed (line : String) : Option JsonRpcRequest :=
  if Blank line ∨ Oversize line then none else requestOf line

/-- A line which the loop parses to a request without an id. -/
def Notification (line : String) : Prop := ∃ request ∈ parsed line, request.id = none

/-- A line which gets as far as parsing and is no request. -/
def Unparsable (line : String) : Prop := ¬Blank line ∧ ¬Oversize line ∧ requestOf line = none

instance (line : String) : Decidable (Notification line) :=
  inferInstanceAs (Decidable (∃ request ∈ parsed line, request.id = none))

/-- The id and the call of a line which asks for an answer. -/
def requestCall (line : String × Env) : Option (RpcId × Call) :=
  (parsed line.1).bind fun request =>
    request.id.map fun id => (id, ⟨request.method, request.params, line.2⟩)

/-- The calls which the lines of a connection dispatch, in order. -/
def requestCalls (lines : List (String × Env)) : List Call :=
  lines.filterMap fun line => (requestCall line).map Prod.snd

theorem parsed_eq_some {line : String} {request : JsonRpcRequest} :
    parsed line = some request ↔
      ¬Blank line ∧ ¬Oversize line ∧ requestOf line = some request := by
  rw [parsed, Option.ite_none_left_eq_some, not_or, and_assoc]

theorem requestCall_eq_some {line : String × Env} {id : RpcId} {call : Call}
    (request : requestCall line = some (id, call)) :
    ∃ parsed_request, parsed line.1 = some parsed_request ∧ parsed_request.id = some id ∧
      call = ⟨parsed_request.method, parsed_request.params, line.2⟩ := by
  obtain ⟨parsed_request, parsed_eq, named⟩ := Option.bind_eq_some_iff.mp request
  obtain ⟨other, id_eq, same⟩ := Option.map_eq_some_iff.mp named
  obtain ⟨rfl, rfl⟩ := Prod.mk.inj same
  exact ⟨parsed_request, parsed_eq, id_eq, rfl⟩

theorem requestCalls_cons_none {line : String × Env} (other : requestCall line = none)
    (lines : List (String × Env)) : requestCalls (line :: lines) = requestCalls lines := by
  simp [requestCalls, other]

theorem requestCalls_cons_some {line : String × Env} {id : RpcId} {call : Call}
    (request : requestCall line = some (id, call)) (lines : List (String × Env)) :
    requestCalls (line :: lines) = call :: requestCalls lines := by
  simp [requestCalls, request]

/-- Read a reply line as a success response. -/
def readResponse (reply : String) : Option JsonRpcResponse :=
  (SerdeJson.fromStr reply).bind JsonRpcResponse.deserialize

/-- Read a reply line as an error response. -/
def readErrorResponse (reply : String) : Option JsonRpcErrorResponse :=
  (SerdeJson.fromStr reply).bind JsonRpcErrorResponse.deserialize

/-- A line is blank, oversize, unparsable or a notification unless it asks for an answer. -/
theorem requestCall_eq_none_iff {line : String × Env} :
    requestCall line = none ↔
      Blank line.1 ∨ Oversize line.1 ∨ Unparsable line.1 ∨ Notification line.1 := by
  by_cases blank : Blank line.1
  · simp [requestCall, parsed, blank]
  by_cases oversize : Oversize line.1
  · simp [requestCall, parsed, oversize]
  cases found : requestOf line.1 with
  | none => simp [requestCall, parsed, Unparsable, blank, oversize, found]
  | some request =>
      simp [requestCall, parsed, Unparsable, Notification, blank, oversize, found]

end Lines

section Passes

variable [Chrono] [SerdeJson] {line : String} (env : Env) (state : AppStateInner)

theorem processLine_blank (blank : Blank line) :
    processLine line env state = (.silent, state) :=
  if_pos blank

theorem processLine_oversize (not_blank : ¬Blank line) (oversize : Oversize line) :
    processLine line env state =
      (.reply (Listener.errorEnvelope (.number 0)
        (.invalidParams s!"line exceeds MAX_LINE_BYTES ({maxLineBytes})")), state) :=
  (if_neg not_blank).trans (if_pos oversize)

theorem processLine_unparsable (unparsable : Unparsable line) :
    processLine line env state =
      (.reply (Listener.parseErrorEnvelope (SerdeJson.errorText (trim line))), state) := by
  obtain ⟨not_blank, not_oversize, no_request⟩ := unparsable
  refine (if_neg not_blank).trans ((if_neg not_oversize).trans ?_)
  rw [no_request]

private theorem processLine_parsed {request : JsonRpcRequest}
    (parsed_eq : parsed line = some request) :
    processLine line env state =
      match request.id with
      | none => (.silent, state)
      | some rpcId =>
          match (dispatch request.method request.params env).exec state with
          | (.ok result, after) => (.reply (Listener.successEnvelope rpcId result), after)
          | (.error (.error error), after) => (.reply (Listener.errorEnvelope rpcId error), after)
          | (.error (.panic _), after) => (.dies, after) := by
  obtain ⟨not_blank, not_oversize, found_eq⟩ := parsed_eq_some.mp parsed_eq
  refine (if_neg not_blank).trans ((if_neg not_oversize).trans ?_)
  generalize requestOf line = found at found_eq ⊢
  subst found_eq
  rfl

theorem processLine_notification (notification : Notification line) :
    processLine line env state = (.silent, state) := by
  obtain ⟨request, parsed_eq, no_id⟩ := notification
  rw [processLine_parsed env state parsed_eq, no_id]

/-- How the loop answers a call. -/
def answer (id : RpcId) : Except Failure Value → LineOutcome
  | .ok result => .reply (Listener.successEnvelope id result)
  | .error (.error error) => .reply (Listener.errorEnvelope id error)
  | .error (.panic _) => .dies

/-- A line which asks for an answer is dispatched and answered. -/
theorem processLine_request {id : RpcId} {call : Call}
    (request : requestCall (line, env) = some (id, call)) :
    processLine line env state =
      (answer id (daemon.step state call).1, (daemon.step state call).2) := by
  obtain ⟨parsed_request, parsed_eq, named, rfl⟩ := requestCall_eq_some request
  rw [processLine_parsed env state parsed_eq, named]
  change _ = (answer id ((dispatch parsed_request.method parsed_request.params env).exec state).1,
    ((dispatch parsed_request.method parsed_request.params env).exec state).2)
  dsimp only
  rcases (dispatch parsed_request.method parsed_request.params env).exec state with
    ⟨⟨error | message⟩ | result, after⟩ <;> rfl

/-- A line which asks for no answer leaves the state alone. -/
theorem processLine_other (other : requestCall (line, env) = none) :
    (processLine line env state).2 = state := by
  by_cases blank : Blank line
  · rw [processLine_blank env state blank]
  rcases requestCall_eq_none_iff.mp other with is_blank | oversize | unparsable | notification
  · exact absurd is_blank blank
  · rw [processLine_oversize env state blank oversize]
  · rw [processLine_unparsable env state unparsable]
  · rw [processLine_notification env state notification]

omit [Chrono] [SerdeJson] in
/-- An answer is an object which a reader takes as it stands. -/
theorem readable_answer {id : RpcId} {output : Except Failure Value} {envelope : Value}
    (plain : ∀ result, output = .ok result → result.Plain resultDepth)
    (replied : answer id output = .reply envelope) :
    ∃ members, envelope = .object members ∧ envelope.Readable := by
  rcases output with ⟨error | message⟩ | result
  · obtain rfl := LineOutcome.reply.inj replied
    exact ⟨_, rfl, Listener.readable_errorEnvelope id error⟩
  · cases replied
  · obtain rfl := LineOutcome.reply.inj replied
    exact ⟨_, rfl, Listener.readable_successEnvelope id (plain result rfl)⟩

/-- Whatever a line holds, the reply to it is an object which a reader takes as it stands. -/
theorem readable_reply {envelope : Value}
    (replied : (processLine line env state).1 = .reply envelope) :
    ∃ members, envelope = .object members ∧ envelope.Readable := by
  cases request : requestCall (line, env) with
  | some addressed =>
      rw [processLine_request env state request] at replied
      exact readable_answer (fun _ => plain_step) replied
  | none =>
      by_cases blank : Blank line
      · rw [processLine_blank env state blank] at replied
        cases replied
      rcases requestCall_eq_none_iff.mp request with
        is_blank | oversize | unparsable | notification
      · exact absurd is_blank blank
      · rw [processLine_oversize env state blank oversize] at replied
        obtain rfl := LineOutcome.reply.inj replied
        exact ⟨_, rfl, Listener.readable_errorEnvelope _ _⟩
      · rw [processLine_unparsable env state unparsable] at replied
        obtain rfl := LineOutcome.reply.inj replied
        exact ⟨_, rfl, Listener.readable_parseErrorEnvelope _⟩
      · rw [processLine_notification env state notification] at replied
        cases replied

end Passes

/-! ## Connections -/

section Connection

variable [Chrono] [SerdeJson]

/-- The loop writes the envelopes of its passes one behind the other. -/
theorem handleConnection_eq {state : AppStateInner} {lines : List (String × Env)}
    (alive : ∀ step ∈ connection.trace state lines, step.output ≠ .dies) (written : String) :
    handleConnection written state lines =
      (((connection.trace state lines).filterMap fun step => step.output.envelope).foldl
        writeEnvelope written, connection.run state lines) := by
  induction lines generalizing state written with
  | nil => rfl
  | cons line lines ih =>
      have first := alive (connection.transition state line) List.mem_cons_self
      have rest : ∀ step ∈ connection.trace (connection.step state line).2 lines,
          step.output ≠ .dies := fun step member => alive step (List.mem_cons_of_mem _ member)
      have later := ih rest
      rw [Mealy.transition] at first
      rw [handleConnection, ← connection_step state line, Mealy.trace_cons, Mealy.run_cons,
        Mealy.transition, List.filterMap_cons]
      generalize connection.step state line = outcome at first later ⊢
      rcases outcome with ⟨_ | envelope | _, after⟩
      · exact later written
      · exact later (writeEnvelope written envelope)
      · exact absurd rfl first

theorem readable_output {state : AppStateInner} {line : String × Env} {envelope : Value}
    (replied : (connection.transition state line).output = .reply envelope) :
    ∃ members, envelope = .object members ∧ envelope.Readable := by
  rw [Mealy.transition, connection_step] at replied
  exact readable_reply line.2 state replied

/-- A connection does to the state what dispatching its requests does. -/
theorem connection_run (state : AppStateInner) (lines : List (String × Env)) :
    connection.run state lines = daemon.run state (requestCalls lines) := by
  induction lines generalizing state with
  | nil => rfl
  | cons line lines ih =>
      rw [Mealy.run_cons, ih, connection_step]
      cases request : requestCall line with
      | none =>
          rw [processLine_other line.2 state request, requestCalls_cons_none request]
      | some addressed =>
          rw [processLine_request line.2 state request, requestCalls_cons_some request,
            Mealy.run_cons]

/-- The dispatch behind a request line is a step of the daemon. -/
theorem dispatched_mem_trace {state : AppStateInner} {lines : List (String × Env)} {step : LineStep}
    (member : step ∈ connection.trace state lines) {id : RpcId} {call : Call}
    (request : requestCall step.event = some (id, call)) :
    daemon.transition step.before call ∈ daemon.trace state (requestCalls lines) := by
  obtain ⟨front, line, back, rfl, rfl⟩ := Mealy.mem_trace.mp member
  refine Mealy.mem_trace.mpr ⟨requestCalls front, call, requestCalls back, ?_, ?_⟩
  · rw [← requestCalls_cons_some request]
    exact List.filterMap_append
  · rw [← connection_run]
    rfl

/-- A reply to a request decodes as the typed envelope of what dispatching the request gives. -/
def Replies (reply : String) (step : LineStep) : Prop :=
  ∀ id call, requestCall step.event = some (id, call) →
    (∀ result,
      ((dispatch call.method call.params call.env).exec step.before).1 = .ok result →
      readResponse reply = some (Handlers.successEnvelope id result)) ∧
    ∀ error,
      ((dispatch call.method call.params call.env).exec step.before).1 = .error (.error error) →
      readErrorResponse reply = some (Handlers.errorEnvelope id error)

theorem output_silent {step : LineStep}
    (taken : step.output = (connection.step step.before step.event).1)
    (quiet : Blank step.event.1 ∨ Notification step.event.1) : step.output = .silent := by
  rw [taken, connection_step]
  rcases quiet with blank | notification
  · rw [processLine_blank _ _ blank]
  · rw [processLine_notification _ _ notification]

end Connection

section Replies

variable [SerdeValues]

theorem readErrorResponse_errorEnvelope (id : RpcId) (error : TeamcommError) :
    readErrorResponse (SerdeJson.toString (Listener.errorEnvelope id error)) =
      some (Handlers.errorEnvelope id error) := by
  rw [readErrorResponse,
    SerdeValues.fromStr_toString _ (Listener.readable_errorEnvelope id error), Option.bind_some,
    deserialize_errorEnvelope]

theorem readResponse_successEnvelope (id : RpcId) {result : Value}
    (plain : result.Plain resultDepth) :
    readResponse (SerdeJson.toString (Listener.successEnvelope id result)) =
      some (Handlers.successEnvelope id result) := by
  rw [readResponse, SerdeValues.fromStr_toString _ (Listener.readable_successEnvelope id plain),
    Option.bind_some, deserialize_successEnvelope]

variable [Chrono]

/-- A pass over a line which asks for an answer, or cannot be read, writes a reply to it. -/
theorem exists_reply {step : LineStep}
    (taken : step.output = (connection.step step.before step.event).1)
    (returns : ∀ id call, requestCall step.event = some (id, call) →
      Returns (daemon.step step.before call).1)
    (kept : ¬Blank step.event.1 ∧ ¬Notification step.event.1) :
    ∃ envelope, step.output.envelope = some envelope ∧
      Replies (SerdeJson.toString envelope) step := by
  rw [taken, connection_step]
  cases request : requestCall step.event with
  | none =>
      have replies : ∀ reply, Replies reply step := by
        intro reply id call other
        rw [request] at other
        cases other
      rcases requestCall_eq_none_iff.mp request with blank | oversize | unparsable | notification
      · exact absurd blank kept.1
      · rw [processLine_oversize _ _ kept.1 oversize]
        exact ⟨_, rfl, replies _⟩
      · rw [processLine_unparsable _ _ unparsable]
        exact ⟨_, rfl, replies _⟩
      · exact absurd notification kept.2
  | some addressed =>
      obtain ⟨id, call⟩ := addressed
      have returned := returns id call request
      rw [processLine_request _ _ request]
      dsimp only
      have only : ∀ reply, (∀ result, (daemon.step step.before call).1 = .ok result →
            readResponse reply = some (Handlers.successEnvelope id result)) ∧
          (∀ error, (daemon.step step.before call).1 = .error (.error error) →
            readErrorResponse reply = some (Handlers.errorEnvelope id error)) →
          Replies reply step := by
        intro reply decodes other_id other_call other
        obtain ⟨rfl, rfl⟩ := Prod.mk.inj (Option.some.inj (request.symm.trans other))
        exact decodes
      have plain : ∀ result, (daemon.step step.before call).1 = .ok result →
        result.Plain resultDepth := fun _ => plain_step
      generalize (daemon.step step.before call).1 = output at returned only plain ⊢
      rcases output with ⟨error | message⟩ | result
      · refine ⟨_, rfl, only _ ⟨by simp, fun other same => ?_⟩⟩
        obtain rfl := Failure.error.inj (Except.error.inj same)
        exact readErrorResponse_errorEnvelope id error
      · exact False.elim returned
      · refine ⟨_, rfl, only _ ⟨fun other same => ?_, by simp⟩⟩
        obtain rfl := Except.ok.inj same
        exact readResponse_successEnvelope id (plain result rfl)

/-- Replies correspond one to one and in order to the lines which are neither blank nor
notifications, every other line leaves the state alone, and requests are dispatched in order. -/
theorem connection_replies {state : AppStateInner} {lines : List (String × Env)}
    (returns : ∀ step ∈ daemon.trace state (requestCalls lines), Returns step.output) :
    List.Forall₂ Replies (Lines.split (handleConnection "" state lines).1)
      ((connection.trace state lines).filter fun step =>
        ¬Blank step.event.1 ∧ ¬Notification step.event.1) ∧
    (∀ step ∈ connection.trace state lines,
      Blank step.event.1 ∨ Oversize step.event.1 ∨ Unparsable step.event.1 ∨
        Notification step.event.1 → step.after = step.before) ∧
    (handleConnection "" state lines).2 = (requestCalls lines).foldl
      (fun state call => ((dispatch call.method call.params call.env).exec state).2) state := by
  have returned : ∀ step ∈ connection.trace state lines, ∀ id call,
      requestCall step.event = some (id, call) → Returns (daemon.step step.before call).1 :=
    fun step member id call request => returns _ (dispatched_mem_trace member request)
  have silent : ∀ step ∈ connection.trace state lines,
      ¬(¬Blank step.event.1 ∧ ¬Notification step.event.1) → step.output = .silent := by
    intro step member other
    rw [not_and_or, not_not, not_not] at other
    exact output_silent (Mealy.output_of_mem_trace member) other
  have alive : ∀ step ∈ connection.trace state lines, step.output ≠ .dies := by
    intro step member dies
    by_cases kept : ¬Blank step.event.1 ∧ ¬Notification step.event.1
    · obtain ⟨envelope, written, -⟩ :=
        exists_reply (Mealy.output_of_mem_trace member) (returned step member) kept
      rw [dies] at written
      cases written
    · rw [silent step member kept] at dies
      cases dies
  rw [handleConnection_eq alive]
  refine ⟨?_, fun step member other => ?_, ?_⟩
  · rw [split_written]
    exact Lines.forall₂_kept
      (fun step member => exists_reply (Mealy.output_of_mem_trace member) (returned step member))
      fun step member other => by rw [silent step member other]; rfl
  · obtain ⟨front, line, back, rfl, rfl⟩ := Mealy.mem_trace.mp member
    exact processLine_other line.2 _ (requestCall_eq_none_iff.mpr other)
  · rw [connection_run, Mealy.run_eq_foldl]
    rfl

end Replies

section Registering

attribute [local instance] Chrono.utc

/-- The compact text format, with one text for every error. -/
@[reducible] def compactJson : SerdeValues :=
  letI := Json.Floats.verbatim
  .compact fun _ => "expected value at line 1 column 1"

attribute [local instance] compactJson

/-- A blank line, a registration and a notification. -/
def registeringLines : List (String × Env) := [
  ("\r\n", .ofSeconds 0 "a"),
  ("\x7b\"jsonrpc\":\"2.0\",\"id\":1,\"method\":\"session.register\",\"params\":\x7b\"pid\":7\x7d\x7d\n",
    .ofSeconds 1 "b"),
  ("\x7b\"jsonrpc\":\"2.0\",\"method\":\"session.list\",\"params\":\x7b\x7d\x7d\n", .ofSeconds 2 "c")]

theorem connection_replies_registeringLines :
    (handleConnection "" newState registeringLines).2 = (requestCalls registeringLines).foldl
      (fun state call => ((dispatch call.method call.params call.env).exec state).2) newState := by
  have returns : ∀ step ∈ daemon.trace newState (requestCalls registeringLines),
      Returns step.output := by decide +kernel
  exact (connection_replies returns).2.2

end Registering

end TeamComm
