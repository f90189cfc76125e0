import TeamComm.Client.Methods

/-!
# Client calls

The request a client sends for a call, and what it makes of the line it reads.
-/

namespace TeamComm

open Json (Value)

/-- Why a call fails. -/
inductive ClientError
  /-- An earlier call has lost the stream. -/
  | noStream
  /-- The request could not be written. -/
  | write
  /-- The response could not be read. -/
  | read
  /-- There is no response. -/
  | closed
  /-- The response is no JSON document. -/
  | parse
  /-- The response is an error. -/
  | daemon (code : Int) (message : String)

namespace ClientError

def display : ClientError → String
  | noStream => "client stream is not available"
  | write => "failed to write request"
  | read => "failed to read response"
  | closed => "daemon closed connection before sending response"
  | parse => "failed to parse response"
  | daemon code message => s!"daemon error {code}: {message}"

end ClientError

namespace Client

/-- The request of a call: every call goes under the same id. -/
def request (call : MethodCall) : Value :=
  .object [
    ("jsonrpc", .string "2.0"),
    ("id", .u64 1),
    ("method", .string call.method),
    ("params", call.params)]

/-- What a response says about its call. -/
def readReply (resp : Value) : Except ClientError Value :=
  match resp.get "error" with
  | some err =>
      .error (.daemon (((err.member "code").bind Json.asI64).getD (-32603))
        (((err.member "message").bind Json.asStr).getD "unknown error"))
  | none => .ok (resp.getOrNull "result")

/-- How a call returns what the daemon has computed for it. -/
def reported : Except Failure Value → Except ClientError Value
  | .ok result => .ok result
  | .error (.error error) => .error (.daemon error.rpcCode.toInt error.display)
  | .error (.panic _) => .error .closed

theorem readReply_successEnvelope (id : RpcId) (result : Value) :
    readReply (Listener.successEnvelope id result) = .ok result := by
  have no_error : (Listener.successEnvelope id result).get "error" = none := by
    simp [Listener.successEnvelope, Value.get_object, Json.lookup_cons_eq_ite]
  have found : (Listener.successEnvelope id result).getOrNull "result" = result := by
    simp [Listener.successEnvelope, Value.getOrNull, Value.get_object]
  simp only [readReply, no_error, found]

theorem readReply_errorEnvelope (id : RpcId) (error : TeamcommError) :
    readReply (Listener.errorEnvelope id error) =
      .error (.daemon error.rpcCode.toInt error.display) := by
  let object := Value.object [("code", i32Value error.rpcCode), ("message", .string error.display)]
  have found : (Listener.errorEnvelope id error).get "error" = some object.doc := by
    simp [Listener.errorEnvelope, Value.get_object, object]
  have code : (object.doc.member "code").bind Json.asI64 = some error.rpcCode.toInt := by
    have small := error.rpcCode.toInt_lt
    have code : object.get "code" = some (i32Value error.rpcCode).doc := by
      simp [object, Value.get_object, Json.lookup_cons_eq_ite]
    change (object.get "code").bind Json.asI64 = _
    rw [code, Option.bind_some, Json.asI64]
    simp only [i32Value, Value.integer, Json.asInteger, Option.filter_some, decide_eq_true_eq]
    exact if_pos (by omega)
  have message : (object.doc.member "message").bind Json.asStr = some error.display := by
    change (object.get "message").bind Json.asStr = _
    simp [object, Value.get_object]
  simp only [readReply, found, code, message, Option.getD_some]

/-- What a line that was read says about its call. -/
def readLine [SerdeJson] (line : String) : Except ClientError Value :=
  match SerdeJson.fromStr line with
  | some json => readReply (.ofJson json)
  | none => .error .parse

end Client

end TeamComm
