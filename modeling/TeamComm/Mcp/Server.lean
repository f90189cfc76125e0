import TeamComm.Daemon.Listener
import TeamComm.Mcp.Handlers

/-!
# MCP server

The dispatcher of `tools/call` envelopes and the loop which answers the lines of standard input.
-/

namespace TeamComm

open Json (Value)

namespace Mcp

/-! ## Envelopes -/

/-- A success envelope. -/
def resultEnvelope (id result : Value) : Value :=
  .object [("jsonrpc", .string "2.0"), ("id", id), ("result", result)]

/-- An error envelope. -/
def errorEnvelope (id : Value) (code : Int32) (message : String) : Value :=
  .object [
    ("jsonrpc", .string "2.0"),
    ("id", id),
    ("error", .object [("code", i32Value code), ("message", .string message)])]

/-- Answer a `tools/call` envelope. -/
def dispatchToolCall (host : Host) (envelope : Value) : Except String Value :=
  match (envelope.get "method").bind Json.asStr with
  | none => .error "missing method"
  | some method =>
      if method ≠ "tools/call" then
        .ok (errorEnvelope (envelope.getOrNull "id") (-32601) s!"unknown method: {method}")
      else
        let id := envelope.getOrNull "id"
        let params := envelope.getOrNull "params"
        match (params.get "name").bind Json.asStr with
        | none => .error "missing params.name"
        | some tool =>
            match route host tool (params.getOrNull "arguments") with
            | .ok result => .ok (resultEnvelope id result)
            | .error error => .ok (errorEnvelope id (-32000) error)

/-! ## The loop -/

/-- What the server tells about itself. -/
structure Manifest where
  /-- Server name. -/
  name : String
  /-- Server version. -/
  version : String
  /-- The tool definitions, served as they were loaded. -/
  tools : Value

/-- The answer to `initialize` and `tools/list`. -/
def serverInfo (manifest : Manifest) : Value :=
  .object [
    ("protocolVersion", .string "2024-11-05"),
    ("serverInfo", .object [
      ("name", .string manifest.name), ("version", .string manifest.version)]),
    ("capabilities", .object [("tools", .object [])]),
    ("tools", manifest.tools)]

/-- Answer a message. -/
def answerMessage (manifest : Manifest) (host : Host) (req : Value) : Value :=
  let id := req.getOrNull "id"
  match ((req.get "method").bind Json.asStr).getD "" with
  | "initialize" => resultEnvelope id (serverInfo manifest)
  | "tools/list" => resultEnvelope id (serverInfo manifest)
  | "tools/call" =>
      match dispatchToolCall host req with
      | .ok envelope => envelope
      | .error error => errorEnvelope id (-32000) error
  | "ping" => resultEnvelope id (.object [])
  | "" => errorEnvelope id (-32600) "missing method"
  | other => errorEnvelope id (-32601) s!"method not found: {other}"

variable [SerdeJson]

/-- The message on a line. -/
def messageOf (line : String) : Option Value := (SerdeJson.fromStr line).map .ofJson

/-- One pass through the loop: the reply, unless the line is blank. -/
def serveLine (manifest : Manifest) (host : Host) (line : String) : Option Value :=
  if trim line = "" then none
  else
    match messageOf line with
    | none => some (errorEnvelope .null (-32700) s!"parse error: {SerdeJson.errorText line}")
    | some req => some (answerMessage manifest host req)

/-- The loop over the lines of standard input: what it writes behind what was written before.  A
line which is no UTF-8 text cannot be read, and ends the server. -/
def serve (manifest : Manifest) (written : String) : List (ByteArray × Host) → String
  | [] => written
  | (bytes, host) :: lines =>
      match String.fromUTF8? bytes with
      | none => written
      | some line =>
          match serveLine manifest host line with
          | none => serve manifest written lines
          | some reply => serve manifest (writeEnvelope written reply) lines

end Mcp

end TeamComm
