import TeamComm.Properties.ConnectionLoop

/-!
# Reply addresses

To whom a reply is addressed.  Replies to requests echo the id and replies to oversize lines carry
the id zero, but a line which is no request is answered with the id `null`, which neither of the
response types reads.
-/

namespace TeamComm

open Json (Value)

/-! ## Envelopes which do not decode -/

theorem response_errorEnvelope (id : RpcId) (error : TeamcommError) :
    JsonRpcResponse.deserialize (Listener.errorEnvelope id error).doc = none := by
  rw [Listener.errorEnvelope, JsonRpcResponse.deserialize, structFields_object]
  simp [Value.get_object, Json.lookup_cons_eq_ite]

theorem errorResponse_successEnvelope (id : RpcId) (result : Value) :
    JsonRpcErrorResponse.deserialize (Listener.successEnvelope id result).doc = none := by
  rw [Listener.successEnvelope, JsonRpcErrorResponse.deserialize, structFields_object]
  simp [Value.get_object, Json.lookup_cons_eq_ite]

theorem response_parseErrorEnvelope (data : String) :
    JsonRpcResponse.deserialize (Listener.parseErrorEnvelope data).doc = none := by
  rw [Listener.parseErrorEnvelope, JsonRpcResponse.deserialize, structFields_object]
  simp [Value.get_object, Json.lookup_cons_eq_ite]

theorem errorResponse_parseErrorEnvelope (data : String) :
    JsonRpcErrorResponse.deserialize (Listener.parseErrorEnvelope data).doc = none := by
  have null_id : RpcId.deserialize Value.null.doc = none := rfl
  rw [Listener.parseErrorEnvelope, JsonRpcErrorResponse.deserialize, structFields_object]
  simp [Value.get_object, Json.lookup_cons_eq_ite, null_id]

/-! ## Ids of documents -/

theorem RpcId.deserialize_normalize (json : Json) :
    RpcId.deserialize json.normalize = RpcId.deserialize json := by
  cases json with
  | null | bool | number | string | array | object => rfl

/-- The id in an object which is a request is the id of the request. -/
theorem id_of_request {json : Json} {request : JsonRpcRequest} {id other : RpcId}
    (read : JsonRpcRequest.deserialize json = some request) (named : request.id = some id)
    (member : ((Value.ofJson json).get "id").bind RpcId.deserialize = some other) :
    id = other := by
  cases json with
  | object members =>
      rw [Value.get_ofJson_object] at member
      simp only [JsonRpcRequest.deserialize, structFields] at read
      split at read
      next distinct =>
        rw [Json.lookup_reverse (by simp) distinct, Option.bind_map] at member
        obtain ⟨found, looked_up, deserialized⟩ := Option.bind_eq_some_iff.mp member
        rw [Function.comp_apply, RpcId.deserialize_normalize] at deserialized
        have field : optionField RpcId.deserialize (members.lookup "id") = some (some other) := by
          rw [looked_up]
          cases found with
          | null => cases deserialized
          | bool | number | string | array | object =>
              exact congrArg (Option.map some) deserialized
        simp only [List.map_cons, List.map_nil, Option.bind_eq_bind, Option.bind_some,
          field] at read
        obtain ⟨jsonrpc, -, read⟩ := Option.bind_eq_some_iff.mp read
        obtain ⟨method, -, read⟩ := Option.bind_eq_some_iff.mp read
        obtain ⟨params, -, read⟩ := Option.bind_eq_some_iff.mp read
        obtain rfl := Option.some.inj read
        exact (Option.some.inj named).symm
      next => cases read
  | null | bool | number | string | array => cases member

/-! ## Addresses -/

section Addresses

variable [SerdeJson]

/-- The string or non-negative integer which a line holds under `id`, when it is an object. -/
def objectId (line : String) : Option RpcId :=
  (SerdeJson.fromStr (trim line)).bind fun json =>
    ((Value.ofJson json).get "id").bind RpcId.deserialize

/-- No id can be read off a line, neither as an object nor as a request in another form. -/
def UnreadableId (line : String) : Prop :=
  objectId line = none ∧ (requestOf line).bind JsonRpcRequest.id = none

/-- A reply line decodes as a response which carries an id. -/
def DecodesTo (reply : String) (id : RpcId) : Prop :=
  (∃ response, readResponse reply = some response ∧ response.id = id) ∨
    ∃ response, readErrorResponse reply = some response ∧ response.id = id

theorem objectId_eq {line : String} {request : JsonRpcRequest} {id other : RpcId}
    (found : requestOf line = some request) (named : request.id = some id)
    (member : objectId line = some other) : id = other := by
  obtain ⟨json, json_eq, read⟩ := Option.bind_eq_some_iff.mp found
  rw [objectId, json_eq, Option.bind_some] at member
  exact id_of_request read named member

end Addresses

section Decoding

variable [SerdeValues]

theorem decodesTo_successEnvelope {id carried : RpcId} {result : Value}
    (plain : result.Plain resultDepth) :
    DecodesTo (SerdeJson.toString (Listener.successEnvelope id result)) carried ↔ id = carried := by
  have read := SerdeValues.fromStr_toString _ (Listener.readable_successEnvelope id plain)
  simp [DecodesTo, readResponse, readErrorResponse, read, errorResponse_successEnvelope,
    Handlers.successEnvelope]

theorem decodesTo_errorEnvelope {id carried : RpcId} {error : TeamcommError} :
    DecodesTo (SerdeJson.toString (Listener.errorEnvelope id error)) carried ↔ id = carried := by
  have read := SerdeValues.fromStr_toString _ (Listener.readable_errorEnvelope id error)
  simp [DecodesTo, readResponse, readErrorResponse, read, response_errorEnvelope,
    Handlers.errorEnvelope, TeamcommError.intoResponse]

theorem not_decodesTo_parseErrorEnvelope {data : String} {carried : RpcId} :
    ¬DecodesTo (SerdeJson.toString (Listener.parseErrorEnvelope data)) carried := by
  have read := SerdeValues.fromStr_toString _ (Listener.readable_parseErrorEnvelope data)
  simp [DecodesTo, readResponse, readErrorResponse, read, response_parseErrorEnvelope,
    errorResponse_parseErrorEnvelope]

end Decoding

section Replies

variable [Chrono] [SerdeValues]

/-- Whatever the loop writes for a line decodes as a response with the id of the line, or with the
id zero when the line has none. -/
def Addressed (line : String) (env : Env) (state : AppStateInner) : Prop :=
  ∀ envelope, (processLine line env state).1.envelope = some envelope →
    ∃ id, DecodesTo (SerdeJson.toString envelope) id ∧
      (∀ named, objectId line = some named → id = named) ∧
      (UnreadableId line → id = .number 0)

theorem addressed_of_silent {line : String} {env : Env} {state : AppStateInner}
    (silent : (processLine line env state).1 = .silent) : Addressed line env state := by
  intro envelope written
  rw [silent] at written
  cases written

/-- An oversize line is answered under the id zero, whatever its own id. -/
theorem addressed_oversize {line : String} (not_blank : ¬Blank line) (oversize : Oversize line)
    (env : Env) (state : AppStateInner) :
    Addressed line env state ↔ ∀ named, objectId line = some named → named = .number 0 := by
  rw [Addressed, processLine_oversize env state not_blank oversize]
  constructor
  · intro addressed named member
    obtain ⟨id, decodes, carried, -⟩ := addressed _ rfl
    rw [← carried named member, ← decodesTo_errorEnvelope.mp decodes]
  · rintro zero envelope written
    obtain rfl := Option.some.inj written
    exact ⟨.number 0, decodesTo_errorEnvelope.mpr rfl, fun named member => (zero named member).symm,
      fun _ => rfl⟩

/-- A line which is no request is answered under the id `null`, which no response type reads. -/
theorem not_addressed_of_unparsable {line : String} (unparsable : Unparsable line) (env : Env)
    (state : AppStateInner) : ¬Addressed line env state := by
  intro addressed
  rw [Addressed, processLine_unparsable env state unparsable] at addressed
  obtain ⟨id, decodes, -⟩ := addressed _ rfl
  exact not_decodesTo_parseErrorEnvelope decodes

theorem addressed_request {line : String} {env : Env} {id : RpcId} {call : Call}
    (request : requestCall (line, env) = some (id, call)) (state : AppStateInner) :
    Addressed line env state := by
  intro envelope written
  have decodes : DecodesTo (SerdeJson.toString envelope) id := by
    rw [processLine_request env state request] at written
    dsimp only at written
    have plain : ∀ result, (daemon.step state call).1 = .ok result → result.Plain resultDepth :=
      fun _ => plain_step
    generalize (daemon.step state call).1 = output at written plain
    rcases output with ⟨error | message⟩ | result
    · obtain rfl := Option.some.inj written
      exact decodesTo_errorEnvelope.mpr rfl
    · cases written
    · obtain rfl := Option.some.inj written
      exact (decodesTo_successEnvelope (plain result rfl)).mpr rfl
  obtain ⟨parsed_request, parsed_eq, named, -⟩ := requestCall_eq_some request
  obtain ⟨-, -, found⟩ := parsed_eq_some.mp parsed_eq
  refine ⟨id, decodes, fun other member => objectId_eq found named member, fun unreadable => ?_⟩
  rw [UnreadableId, found, Option.bind_some, named] at unreadable
  cases unreadable.2

/-- Replies are addressed to their requests exactly for blank lines, for lines which parse as a
request, and for oversize lines without an id other than zero. -/
theorem addressed_iff (line : String) (env : Env) (state : AppStateInner) :
    Addressed line env state ↔
      Blank line ∨ (parsed line).isSome = true ∨
        Oversize line ∧ ∀ named, objectId line = some named → named = .number 0 := by
  by_cases blank : Blank line
  · simp [blank, addressed_of_silent (congrArg Prod.fst (processLine_blank env state blank))]
  by_cases oversize : Oversize line
  · rw [addressed_oversize blank oversize]
    simp [blank, oversize, parsed]
  cases request : requestCall (line, env) with
  | some addressed =>
      obtain ⟨parsed_request, parsed_eq, -⟩ := requestCall_eq_some request
      have is_parsed : (parsed line).isSome = true := Option.isSome_of_mem parsed_eq
      simp [addressed_request request, is_parsed]
  | none =>
      have unanswered := requestCall_eq_none_iff.mp request
      simp only [blank, oversize, false_or] at unanswered
      rcases unanswered with unparsable | notification
      · have not_parsed : parsed line = none := by
          rw [parsed, if_neg (not_or.mpr ⟨blank, oversize⟩), unparsable.2.2]
        simp [not_addressed_of_unparsable unparsable, blank, oversize, not_parsed]
      · have silent := congrArg Prod.fst (processLine_notification env state notification)
        obtain ⟨parsed_request, parsed_eq, -⟩ := notification
        have is_parsed : (parsed line).isSome = true := Option.isSome_of_mem parsed_eq
        simp [addressed_of_silent silent, is_parsed]

end Replies

section MissingParams

attribute [local instance] Chrono.utc

/-- The compact text format, with the text of the error on `missingParams`. -/
@[reducible] def missingParamsJson : SerdeValues :=
  letI := Json.Floats.verbatim
  .compact fun _ => "missing field `params` at line 1 column 48"

attribute [local instance] missingParamsJson

/-- A request with a readable id and without `params`. -/
def missingParams : String := "\x7b\"jsonrpc\":\"2.0\",\"id\":7,\"method\":\"session.list\"\x7d"

theorem not_addressed_missingParams :
    objectId missingParams = some (.number 7) ∧
      ¬Addressed missingParams (.ofSeconds 0 "a") newState := by
  have unparsable : Unparsable missingParams :=
    ⟨by decide +kernel, by decide +kernel, by
      rw [← Option.isNone_iff_eq_none]
      decide +kernel⟩
  exact ⟨by decide +kernel, not_addressed_of_unparsable unparsable _ _⟩

end MissingParams

end TeamComm
