import TeamComm.Daemon.Handlers
import TeamComm.Library.JsonCut
import TeamComm.Library.Lines
import TeamComm.Library.Mealy

/-!
# Listener

Dispatch of a method name to its handler, the envelopes the listener builds, and the loop which
reads request lines from a connection and writes response lines back.
-/

namespace TeamComm

open Json (Value)

/-! ## Dispatch -/

/-- Dispatch a method name to its handler. -/
def dispatch [Chrono] (method : String) (params : Value) (env : Env) : Handler Value :=
  match method with
  | "session.register" => handleSessionRegister env params
  | "session.deregister" => handleSessionDeregister params
  | "session.heartbeat" => handleSessionHeartbeat env params
  | "session.list" => handleSessionList env params
  | "session.get" => handleSessionGet params
  | "reservation.claim" => handleReservationClaim env params
  | "reservation.release" => handleReservationRelease params
  | "reservation.list" => handleReservationList env params
  | "inbox.post" => handleInboxPost env params
  | "inbox.list" => handleInboxList params
  | "inbox.read" => handleInboxRead env params
  | "state.set" => handleStateSet env params
  | "state.get" => handleStateGet params
  | "discover.agents" => handleDiscoverAgents env params
  | other => throw (.error (.methodNotFound other))

/-- A dispatched request with what it takes from outside the state. -/
structure Call where
  /-- Method name. -/
  method : String
  /-- Method-specific parameters. -/
  params : Value
  /-- Clock reading, UUID and iteration order of the call. -/
  env : Env

/-- The daemon as a machine: calls take the lock one after the other. -/
def daemon [Chrono] : Mealy AppStateInner Call (Except Failure Value) where
  step state call := (dispatch call.method call.params call.env).exec state

/-- One call of a run of the daemon. -/
abbrev CallStep := Mealy.Transition AppStateInner Call (Except Failure Value)

/-- Minted ids never repeat in a run. -/
abbrev FreshIds (calls : List Call) : Prop := Mealy.Fresh (fun call => call.env.uuid) calls

/-! ## Envelopes -/

namespace Handlers

/-- The typed success envelope. -/
def successEnvelope (id : RpcId) (result : Value) : JsonRpcResponse :=
  { jsonrpc := "2.0", id, result }

/-- The typed error envelope. -/
def errorEnvelope (id : RpcId) (error : TeamcommError) : JsonRpcErrorResponse :=
  error.intoResponse id

end Handlers

namespace Listener

/-- The success envelope as the listener writes it. -/
def successEnvelope (id : RpcId) (result : Value) : Value :=
  .object [("jsonrpc", .string "2.0"), ("id", id.toValue), ("result", result)]

/-- The error envelope as the listener writes it. -/
def errorEnvelope (id : RpcId) (error : TeamcommError) : Value :=
  .object [
    ("jsonrpc", .string "2.0"),
    ("id", id.toValue),
    ("error", .object [("code", i32Value error.rpcCode), ("message", .string error.display)])]

/-- The envelope for a line which is not a request. -/
def parseErrorEnvelope (data : String) : Value :=
  .object [
    ("jsonrpc", .string "2.0"),
    ("id", .null),
    ("error", .object [
      ("code", i32Value (-32700)), ("message", .string "parse error"), ("data", .string data)])]

end Listener

/-! ## Connections -/

/-- Longest request line accepted, in bytes. -/
def maxLineBytes : Nat := 1024 * 1024

/-- The JSON text format: what is written is one line. -/
class SerdeJson where
  /-- Write a value. -/
  toString : Value → String
  /-- Read a document. -/
  fromStr : String → Option Json
  /-- The text of the error on a line which is no request. -/
  errorText : String → String
  /-- A written value holds no raw newline. -/
  solid : ∀ value, Lines.Solid (toString value)

/-- The compact text format. -/
@[reducible] def SerdeJson.compact [Json.Floats] (errorText : String → String) : SerdeJson where
  toString value := String.ofList value.doc.render
  fromStr text := Json.parse text.toList
  errorText := errorText
  solid value := by
    simpa [Lines.Solid] using Json.newline_not_mem_render value.doc

/-- A text format in which reading inverts writing, within the limits of the reader. -/
class SerdeValues extends SerdeJson where
  /-- A value which is not too deep and whose numbers are integers reads back as it was. -/
  fromStr_toString : ∀ value : Value, value.Readable → fromStr (toString value) = some value.doc

/-- The compact text format is one of them. -/
@[reducible] def SerdeValues.compact [Json.Floats] (errorText : String → String) : SerdeValues where
  toSerdeJson := .compact errorText
  fromStr_toString value readable := by
    change Json.parse (String.ofList value.doc.render).toList = _
    rw [String.toList_ofList, Json.parse_render, readable.accept]

/-- A text format in which a document may have a newline behind it, and an object is none without
its closing brace. -/
class SerdeText extends SerdeValues where
  /-- A newline behind a document is skipped. -/
  fromStr_newline : ∀ value : Value, value.Readable →
    fromStr (toString value ++ "\n") = some value.doc
  /-- An object stands between braces. -/
  braces : ∀ members, ∃ inner,
    toString (.object members) = String.singleton '\x7b' ++ inner ++ String.singleton '\x7d'
  /-- A text which breaks off inside an object is no document. -/
  fromStr_cut : ∀ members front back,
    toString (.object members) = front ++ back → back ≠ "" → fromStr front = none

/-- The compact text format is one of them, too. -/
@[reducible] def SerdeText.compact [Json.Floats] (errorText : String → String) : SerdeText where
  toSerdeValues := .compact errorText
  fromStr_newline value readable := by
    change Json.parse (String.ofList value.doc.render ++ "\n").toList = _
    rw [String.toList_append, String.toList_ofList]
    exact (Json.parse_render_newline value.doc).trans readable.accept
  braces members := by
    obtain ⟨inner, rendered⟩ :=
      Json.render_object (Json.sortMembers (members.map fun entry => (entry.1, entry.2.doc)))
    refine ⟨String.ofList inner, ?_⟩
    change String.ofList (Json.render (.object _)) = _
    rw [rendered]
    apply String.ext
    simp
  fromStr_cut members front back cut nonempty := by
    have rendered := congrArg String.toList cut
    change (String.ofList (Json.render (.object _))).toList = _ at rendered
    rw [String.toList_ofList, String.toList_append] at rendered
    exact Json.parse_cut rendered (by simpa using nonempty)

section Written

variable [SerdeJson]

/-- Write an envelope on one line behind what was written before. -/
def writeEnvelope (written : String) (envelope : Value) : String :=
  written ++ SerdeJson.toString envelope ++ "\n"

/-- What was written reads back as the lines which were written. -/
theorem split_written (envelopes : List Value) :
    Lines.split (envelopes.foldl writeEnvelope "") = envelopes.map SerdeJson.toString := by
  have joined :
      envelopes.foldl writeEnvelope "" = Lines.join (envelopes.map SerdeJson.toString) := by
    rw [Lines.join, List.foldl_map]
    rfl
  rw [joined, Lines.split_join]
  intro frame member
  obtain ⟨envelope, -, rfl⟩ := List.mem_map.mp member
  exact SerdeJson.solid envelope

end Written

/-- What the loop does about one line. -/
inductive LineOutcome
  /-- Read on without a reply. -/
  | silent
  /-- Write an envelope. -/
  | reply (envelope : Value)
  /-- The connection's task dies. -/
  | dies

section Loop

variable [Chrono] [SerdeJson]

/-- The request a line holds. -/
def requestOf (line : String) : Option JsonRpcRequest :=
  (SerdeJson.fromStr (trim line)).bind JsonRpcRequest.deserialize

/-- One pass through the connection loop. -/
def processLine (line : String) (env : Env) (state : AppStateInner) : LineOutcome × AppStateInner :=
  if trim line = "" then (.silent, state)
  else if maxLineBytes < (trim line).utf8ByteSize then
    (.reply (Listener.errorEnvelope (.number 0)
      (.invalidParams s!"line exceeds MAX_LINE_BYTES ({maxLineBytes})")), state)
  else
    match requestOf line with
    | none => (.reply (Listener.parseErrorEnvelope (SerdeJson.errorText (trim line))), state)
    | some request =>
        match request.id with
        -- A notification is only logged.
        | none => (.silent, state)
        | some rpcId =>
            match (dispatch request.method request.params env).exec state with
            | (.ok result, after) => (.reply (Listener.successEnvelope rpcId result), after)
            | (.error (.error error), after) => (.reply (Listener.errorEnvelope rpcId error), after)
            | (.error (.panic _), after) => (.dies, after)

/-- The connection loop over the lines a client sends: what was written to the client, and the
state the loop leaves behind. -/
def handleConnection (written : String) (state : AppStateInner) :
    List (String × Env) → String × AppStateInner
  | [] => (written, state)
  | (line, env) :: lines =>
      match processLine line env state with
      | (.silent, after) => handleConnection written after lines
      | (.reply envelope, after) => handleConnection (writeEnvelope written envelope) after lines
      | (.dies, after) => (written, after)

/-- The connection loop as a machine which takes one line after the other. -/
def connection : Mealy AppStateInner (String × Env) LineOutcome where
  step state line := processLine line.1 line.2 state

theorem connection_step (state : AppStateInner) (line : String × Env) :
    connection.step state line = processLine line.1 line.2 state := by
  rw [connection]

/-- One pass of a connection through its loop. -/
abbrev LineStep := Mealy.Transition AppStateInner (String × Env) LineOutcome

end Loop

end TeamComm
