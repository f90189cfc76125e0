import TeamComm.Client.Methods

/-!
# MCP tool handlers

The bridge from each MCP tool to a method of the daemon, and the table which routes a tool name to
its bridge.
-/

namespace TeamComm

open Json (Value)

/-- What a tool call takes from outside. -/
structure Host where
  /-- Process id of the MCP server. -/
  processId : UInt32
  /-- Connecting to the daemon. -/
  connect : Except String PUnit
  /-- What `Client::call` returns on the connection. -/
  call : MethodCall → Except String Value

namespace Mcp

/-! ## Arguments -/

def requireStr (args : Value) (key : String) : Except String String :=
  match (args.get key).bind Json.asStr with
  | some text => .ok text
  | none => .error s!"missing required string argument: {key}"

def optStr (args : Value) (key : String) : Option String := (args.get key).bind Json.asStr

def optU64 (args : Value) (key : String) : Option UInt64 := (args.get key).bind Json.asU64

def optBool (args : Value) (key : String) : Option Bool := (args.get key).bind Json.asBool

/-- Connect, call a method, and label the error of the call. -/
def forward (host : Host) (label method : String) (params : List (String × Value)) :
    Except String Value :=
  match host.connect with
  | .error error => .error s!"failed to connect to teamcomm daemon: {error}"
  | .ok _ =>
      match host.call ⟨method, .object params⟩ with
      | .error error => .error s!"{label} failed: {error}"
      | .ok result => .ok result

/-! ## Session tools -/

/-- The metadata of a registration: what the caller gave, completed by role and focus. -/
def metadataObject (args : Value) (agentId role : String) (focus : Option String) : Value :=
  let given := (((args.get "metadata").bind Json.asObject).getD []).map
    fun entry => (entry.1, Value.ofJson entry.2)
  let withRole := if "role" ∈ given.map Prod.fst then given else given ++ [("role", .string role)]
  let withFocus :=
    if "focus" ∈ withRole.map Prod.fst then withRole else withRole ++ givenStr "focus" focus
  .object (withFocus ++ [("mcp_role", .string role), ("mcp_agent_id", .string agentId)])

def registerSession (host : Host) (args : Value) : Except String Value := do
  let agentId ← requireStr args "agent_id"
  let role ← requireStr args "role"
  let focus := optStr args "focus"
  forward host "session.register" "session.register" [
    ("agent_type", .string "codex"),
    ("pid", .u64 host.processId.toUInt64),
    ("metadata", metadataObject args agentId role focus)]

def deregisterSession (host : Host) (args : Value) : Except String Value := do
  let sessionId ← requireStr args "session_id"
  forward host "session.deregister" "session.deregister" [("session_id", .string sessionId)]

def listSessions (host : Host) (args : Value) : Except String Value :=
  forward host "session.list" "session.list"
    (givenStr "role" (optStr args "role") ++
      givenStr "focus_contains" (optStr args "focus_contains"))

/-! ## Reservation tools -/

def claimFile (host : Host) (args : Value) : Except String Value := do
  let sessionId ← requireStr args "session_id"
  let path ← requireStr args "path"
  let mode ← requireStr args "mode"
  let ttl := (optU64 args "ttl_sec").getD 300
  forward host "reservation.claim" "reservation.claim" ([
    ("session_id", .string sessionId),
    ("path", .string path),
    ("mode", .string mode),
    ("ttl_seconds", .u64 ttl)] ++ givenStr "reason" (optStr args "reason"))

def releaseFile (host : Host) (args : Value) : Except String Value := do
  let reservationId ← requireStr args "reservation_id"
  forward host "reservation.release" "reservation.release"
    ([("reservation_id", .string reservationId)] ++
      givenStr "session_id" (optStr args "session_id"))

def listClaims (host : Host) (args : Value) : Except String Value :=
  forward host "reservation.list" "reservation.list"
    (givenStr "session_id" (optStr args "session_id") ++
      givenStr "path_prefix" (optStr args "path_prefix") ++
      givenStr "mode" (optStr args "mode"))

/-! ## Inbox tools -/

def postMessage (host : Host) (args : Value) : Except String Value := do
  let sessionId ← requireStr args "session_id"
  let recipient := optStr args "to"
  let body ← requireStr args "body"
  let topic := optStr args "topic"
  let kind := (optStr args "kind").getD "note"
  let priority := (optStr args "priority").getD "normal"
  forward host "inbox.post" "inbox.post" ([
    ("from_session", .string sessionId),
    ("kind", .string kind),
    ("priority", .string priority),
    ("body", .string body),
    ("to_session", .string (recipient.getD ""))] ++ givenStr "subject" topic)

def readInbox (host : Host) (args : Value) : Except String Value := do
  let sessionId ← requireStr args "session_id"
  let limit := match optU64 args "limit" with
    | some limit => [("limit", Value.u64 limit)]
    | none => []
  forward host "inbox.list" "inbox.list"
    ([("session_id", .string sessionId)] ++ limit ++ givenStr "since" (optStr args "since"))

/-! ## State and discovery tools -/

def announceFocus (host : Host) (args : Value) : Except String Value := do
  let sessionId ← requireStr args "session_id"
  let focus ← requireStr args "focus"
  forward host "state.set (announce_focus)" "state.set" [
    ("session_id", .string sessionId),
    ("state", .object [("focus", .string focus), ("status", .string "working")])]

def setStatus (host : Host) (args : Value) : Except String Value := do
  let sessionId ← requireStr args "session_id"
  let status ← requireStr args "status"
  let message := optStr args "message"
  forward host "state.set (set_status)" "state.set" [
    ("session_id", .string sessionId),
    ("state", .object ([("status", .string status)] ++ givenStr "status_message" message))]

def discoverAgentsForPath (host : Host) (args : Value) : Except String Value := do
  let path ← requireStr args "path"
  let includeIdle := (optBool args "include_idle").getD false
  forward host "discover.agents" "discover.agents" ([
    ("path", .string path),
    ("include_idle", .bool includeIdle)] ++ givenStr "agent_type" (optStr args "agent_type"))

/-! ## Routing -/

/-- Route a tool name to its handler. -/
def route (host : Host) (tool : String) (args : Value) : Except String Value :=
  match tool with
  | "teamcomm_session_register" => registerSession host args
  | "teamcomm_session_deregister" => deregisterSession host args
  | "teamcomm_session_list" => listSessions host args
  | "teamcomm_file_claim" => claimFile host args
  | "teamcomm_file_release" => releaseFile host args
  | "teamcomm_file_list_claims" => listClaims host args
  | "teamcomm_inbox_post" => postMessage host args
  | "teamcomm_inbox_read" => readInbox host args
  | "teamcomm_announce_focus" => announceFocus host args
  | "teamcomm_set_status" => setStatus host args
  | "teamcomm_discover_agents_for_path" => discoverAgentsForPath host args
  | other => .error s!"unknown tool: {other}"

end Mcp

end TeamComm
