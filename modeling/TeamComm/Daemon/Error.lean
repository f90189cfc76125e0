import TeamComm.Protocol.Rpc

/-!
# Daemon errors

The error enumeration of the daemon, its JSON-RPC codes and texts, and its error envelope.
-/

namespace TeamComm

/-- Crate-level error type of the daemon. -/
inductive TeamcommError
  /-- The method is not implemented. -/
  | methodNotFound (detail : String)
  /-- The request is well formed but semantically wrong. -/
  | invalidParams (detail : String)
  /-- A session, reservation or message does not exist. -/
  | notFound (detail : String)
  /-- A claimed path conflicts with an existing reservation. -/
  | conflict (detail : String)
  /-- Unexpected internal failure. -/
  | internal (detail : String)
  deriving DecidableEq

namespace TeamcommError

/-- The text of an error. -/
def display : TeamcommError → String
  | .methodNotFound detail => s!"method not found: {detail}"
  | .invalidParams detail => s!"invalid params: {detail}"
  | .notFound detail => s!"not found: {detail}"
  | .conflict detail => s!"conflict: {detail}"
  | .internal detail => s!"internal error: {detail}"

/-- The JSON-RPC code of an error. -/
def rpcCode : TeamcommError → Int32
  | .methodNotFound _ => -32601
  | .invalidParams _ => -32602
  | .notFound _ => -32004
  | .conflict _ => -32005
  | .internal _ => -32603

/-- The error object, without extra data. -/
def toRpcError (error : TeamcommError) : JsonRpcError :=
  { code := error.rpcCode, message := error.display, data := none }

/-- The error response addressed to a request. -/
def intoResponse (error : TeamcommError) (id : RpcId) : JsonRpcErrorResponse :=
  { jsonrpc := "2.0", id, error := error.toRpcError }

end TeamcommError

end TeamComm
