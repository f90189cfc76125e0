import TeamComm.Client.Link

/-!
# CLI calls

A subcommand opens a stream of its own, writes one request line, reads one line back and makes of it
what it can.  Whether a task of the daemon ever reads what was written is not up to the subcommand.
-/

namespace TeamComm

open Json (Value)

/-- The text format in which records are written as well, fields in the order of the record. -/
class SerdeRecords extends SerdeText where
  /-- Write a document. -/
  docToString : Json → String
  /-- A written record holds no raw newline. -/
  solid_doc : ∀ members, Lines.Solid (docToString (.object members))
  /-- A document which is not too deep and whose numbers are integers reads back as it was. -/
  fromStr_docToString : ∀ json : Json, json.Integral → json.nesting ≤ Json.nestingLimit →
    fromStr (docToString json) = some json
  /-- A record stands between braces. -/
  doc_braces : ∀ members, ∃ inner,
    docToString (.object members) = String.singleton '\x7b' ++ inner ++ String.singleton '\x7d'
  /-- A text which breaks off inside a record is no document. -/
  fromStr_doc_cut : ∀ members front back,
    docToString (.object members) = front ++ back → back ≠ "" → fromStr front = none

/-- The compact text format is one of them. -/
@[reducible] def SerdeRecords.compact [Json.Floats] (errorText : String → String) :
    SerdeRecords where
  toSerdeText := .compact errorText
  docToString json := String.ofList json.render
  solid_doc members := by
    simpa [Lines.Solid] using Json.newline_not_mem_render (.object members)
  fromStr_docToString json integral deep := by
    change Json.parse (String.ofList json.render).toList = _
    rw [String.toList_ofList, Json.parse_render, integral.accept, if_pos deep]
  doc_braces members := by
    obtain ⟨inner, rendered⟩ := Json.render_object members
    refine ⟨String.ofList inner, ?_⟩
    rw [rendered]
    apply String.ext
    simp
  fromStr_doc_cut members front back cut nonempty := by
    have rendered := congrArg String.toList cut
    rw [String.toList_ofList, String.toList_append] at rendered
    exact Json.parse_cut rendered (by simpa using nonempty)

/-- Why a call of a subcommand fails. -/
inductive RpcCallError
  /-- The daemon has answered with an error, or with nothing that could be understood. -/
  | server (code : Int32) (message : String) (data : Option Value)
  /-- The request could not be written, or nothing could be read. -/
  | transport (reason : String)
  /-- The daemon does not know the method. -/
  | methodNotFound (message : String)

def RpcCallError.display : RpcCallError → String
  | server code message _ => s!"daemon returned error {code.toInt}: {message}"
  | transport reason => s!"transport error: {reason}"
  | methodNotFound message => s!"method not found: {message}"

namespace Cli

/-! ## Envelopes -/

/-- The request as it is written. -/
def request (call : MethodCall) : List (String × Json) := [
  ("jsonrpc", .string "2.0"),
  ("id", (Value.u64 1).doc),
  ("method", .string call.method),
  ("params", call.params.doc)]

/-- The result in a success response; its id may be anything. -/
def readResult (json : Json) : Option Value := do
  match ← structFields ["jsonrpc", "id", "result"] json with
  | [jsonrpc, id, result] =>
      let _ ← jsonrpc.bind Json.asStr
      let _ ← id
      return .ofJson (← result)
  | _ => none

/-- The error in an error response; its id may be anything. -/
def readError (json : Json) : Option JsonRpcError := do
  match ← structFields ["jsonrpc", "id", "error"] json with
  | [jsonrpc, id, error] =>
      let _ ← jsonrpc.bind Json.asStr
      let _ ← id
      error.bind JsonRpcError.deserialize
  | _ => none

/-- A text cut after a number of characters. -/
def truncate (text : String) (max : Nat) : String :=
  if text.length ≤ max then text else s!"{String.ofList (text.toList.take max)}…"

/-- `trim_end_matches(['\n', '\r'])`. -/
def trimLineEnd (line : List Char) : List Char :=
  (line.reverse.dropWhile fun char => char = '\n' ∨ char = '\r').reverse

section Lines

variable [SerdeRecords]

/-- The line of a request. -/
def requestText (call : MethodCall) : List Char :=
  (SerdeRecords.docToString (.object (request call))).toList ++ ['\n']

/-- Whatever is written of a request is one line to the daemon. -/
theorem readLine_written (call : MethodCall) {part : List Char}
    (written : part <+: requestText call) : Lines.readLine part = (part, []) :=
  Lines.readLine_prefix (SerdeRecords.solid_doc _) written

/-- What a line says about its call: a success is tried before an error. -/
def readResponse (line : String) : Except RpcCallError Value :=
  match (SerdeJson.fromStr line).bind readResult with
  | some result => .ok result
  | none =>
      match (SerdeJson.fromStr line).bind readError with
      | some error =>
          if error.code = -32601 then .error (.methodNotFound error.message)
          else .error (.server error.code error.message error.data)
      | none => .error (.server (-32700)
          s!"daemon response was not a valid JSON-RPC envelope: {truncate line 200}" none)

/-- The result of a call, by what becomes of its write and of its read. -/
def callOnStream (write : Except String Unit) (read : Except String (List Char)) :
    Except RpcCallError Value :=
  match write with
  | .error reason => .error (.transport s!"write: {reason}")
  | .ok _ =>
      match read with
      | .error reason => .error (.transport s!"read: {reason}")
      | .ok [] =>
          .error (.server (-32099) "daemon closed connection before sending a response" none)
      | .ok line => readResponse (String.ofList (trimLineEnd line))

/-! ## A call and its connection -/

/-- What becomes of a call on its way. -/
structure Wire where
  /-- The write of the request fails behind a number of characters, for a reason. -/
  writeFault : Option (Nat × String)
  /-- A task of the daemon reads what is written.  None does while the connection is not accepted,
  or where the task is aborted first. -/
  served : Bool
  /-- The read of the response fails, for a reason. -/
  readFault : Option String
  /-- How many characters of the response there are when the stream ends. -/
  arrives : Nat

/-- What becomes of the write. -/
def Wire.write (wire : Wire) : Except String Unit :=
  match wire.writeFault with
  | some (_, reason) => .error reason
  | none => .ok ()

/-- What is read of a response. -/
def Wire.read (wire : Wire) (response : String) : Except String (List Char) :=
  match wire.readFault with
  | some reason => .error reason
  | none => .ok (Lines.readLine (response.toList.take wire.arrives)).1

/-- What the daemon writes for what arrives of a request, and the state which it leaves behind. -/
def respond [Chrono] (state : AppStateInner) (sent : List Char) (served : Bool) (env : Env) :
    String × AppStateInner :=
  -- A request is one line, and what there is of it is read up to the end of the stream.
  if sent = [] ∨ served = false then ("", state)
  else handleConnection "" state [(String.ofList sent, env)]

/-- A call over a connection of its own: what it returns, and the state which it leaves behind. -/
def exchange [Chrono] (state : AppStateInner) (call : MethodCall) (env : Env) (wire : Wire) :
    Except RpcCallError Value × AppStateInner :=
  let sent := written (requestText call) (wire.writeFault.map Prod.fst)
  let (response, after) := respond state sent wire.served env
  (callOnStream wire.write (wire.read response), after)

end Lines

end Cli

end TeamComm
