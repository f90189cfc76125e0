import TeamComm.Rust

/-!
# Wire types

The records which the daemon stores and returns, with the JSON value that each one serialises to.
-/

namespace TeamComm

open Json (Value)

/-- The value of an optional field: `null` when absent. -/
def optionValue {α : Type*} (toValue : α → Value) : Option α → Value
  | none => .null
  | some inner => toValue inner

namespace PathBuf

/-- A path serialises to its string. -/
def toValue (path : PathBuf) : Value := .string path.inner

end PathBuf

namespace DateTime

/-- An instant serialises to its RFC 3339 text. -/
def toValue [Chrono] (instant : DateTime) : Value := .string (Chrono.toRfc3339 instant)

end DateTime

/-! ## Sessions -/

/-- What kind of coding agent is running a session. -/
inductive AgentType
  | forge
  | codex
  | claude
  | copilot
  | custom (identifier : String)
  deriving DecidableEq

/-- `rename_all = "snake_case"`, the custom variant externally tagged. -/
def AgentType.toValue : AgentType → Value
  | .forge => .string "forge"
  | .codex => .string "codex"
  | .claude => .string "claude"
  | .copilot => .string "copilot"
  | .custom identifier => .object [("custom", .string identifier)]

/-- A live, registered agent session. -/
structure Session where
  /-- Stable, unique session identifier. -/
  sessionId : String
  /-- Which agent is running the session. -/
  agentType : AgentType
  /-- Process id of the agent at registration time. -/
  pid : UInt32
  /-- When the session was registered. -/
  startedAt : DateTime
  /-- Working directory declared at registration. -/
  workingDir : PathBuf
  /-- Free-form capability tags. -/
  capabilities : List String
  /-- Last heartbeat observed. -/
  lastHeartbeat : DateTime

def Session.toValue [Chrono] (session : Session) : Value :=
  .object [
    ("session_id", .string session.sessionId),
    ("agent_type", session.agentType.toValue),
    ("pid", .u64 session.pid.toUInt64),
    ("started_at", session.startedAt.toValue),
    ("working_dir", session.workingDir.toValue),
    ("capabilities", .array (session.capabilities.map .string)),
    ("last_heartbeat", session.lastHeartbeat.toValue)]

/-- What an agent sends to register itself. -/
structure SessionRegistration where
  /-- Which agent is registering. -/
  agentType : AgentType
  /-- Process id of the registering agent. -/
  pid : UInt32
  /-- Working directory the agent will operate in. -/
  workingDir : PathBuf
  /-- Free-form capability tags. -/
  capabilities : List String

def SessionRegistration.toValue (registration : SessionRegistration) : Value :=
  .object [
    ("agent_type", registration.agentType.toValue),
    ("pid", .u64 registration.pid.toUInt64),
    ("working_dir", registration.workingDir.toValue),
    ("capabilities", .array (registration.capabilities.map .string))]

/-! ## Live state -/

/-- Working status of an agent. -/
inductive AgentStatus
  | idle
  | working
  | blocked
  | done
  | stuck
  deriving DecidableEq

/-- `rename_all = "snake_case"`. -/
def AgentStatus.toValue : AgentStatus → Value
  | .idle => .string "idle"
  | .working => .string "working"
  | .blocked => .string "blocked"
  | .done => .string "done"
  | .stuck => .string "stuck"

/-- Snapshot of an agent's focus and status. -/
structure LiveState where
  /-- Session this state belongs to. -/
  sessionId : String
  /-- File the agent is focused on, if any. -/
  focusFile : Option PathBuf
  /-- Branch the agent is working on, if any. -/
  focusBranch : Option String
  /-- Worktree the agent is operating in, if any. -/
  worktree : Option PathBuf
  /-- Current status. -/
  status : AgentStatus
  /-- When this snapshot was produced. -/
  lastHeartbeat : DateTime

def LiveState.toValue [Chrono] (live : LiveState) : Value :=
  .object [
    ("session_id", .string live.sessionId),
    ("focus_file", optionValue PathBuf.toValue live.focusFile),
    ("focus_branch", optionValue .string live.focusBranch),
    ("worktree", optionValue PathBuf.toValue live.worktree),
    ("status", live.status.toValue),
    ("last_heartbeat", live.lastHeartbeat.toValue)]

/-- Lightweight summary of a session for discovery. -/
structure SessionSummary where
  /-- Session identifier. -/
  sessionId : String
  /-- Agent type. -/
  agentType : AgentType
  /-- Process id. -/
  pid : UInt32
  /-- Current status. -/
  status : AgentStatus
  /-- File the agent is focused on, if any. -/
  focusFile : Option PathBuf
  /-- Last heartbeat time. -/
  lastHeartbeat : DateTime

def SessionSummary.toValue [Chrono] (summary : SessionSummary) : Value :=
  .object [
    ("session_id", .string summary.sessionId),
    ("agent_type", summary.agentType.toValue),
    ("pid", .u64 summary.pid.toUInt64),
    ("status", summary.status.toValue),
    ("focus_file", optionValue PathBuf.toValue summary.focusFile),
    ("last_heartbeat", summary.lastHeartbeat.toValue)]

/-- Filters of a discovery request; absent ones match every session. -/
structure DiscoveryQuery where
  /-- The focus file equals this path or is under it. -/
  path : Option PathBuf := none
  /-- The focus branch is this one. -/
  branch : Option String := none
  /-- The working directory is in this repository. -/
  repo : Option PathBuf := none
  /-- All of these capability tags are declared. -/
  capabilities : List String := []

def DiscoveryQuery.toValue (query : DiscoveryQuery) : Value :=
  .object [
    ("path", optionValue PathBuf.toValue query.path),
    ("branch", optionValue .string query.branch),
    ("repo", optionValue PathBuf.toValue query.repo),
    ("capabilities", .array (query.capabilities.map .string))]

/-! ## Reservations -/

/-- How strongly an agent claims a path. -/
inductive ReservationMode
  | read
  | write
  | exclusive
  deriving DecidableEq

/-- `rename_all = "snake_case"`. -/
def ReservationMode.toValue : ReservationMode → Value
  | .read => .string "read"
  | .write => .string "write"
  | .exclusive => .string "exclusive"

/-- A reservation held by a session. -/
structure Reservation where
  /-- Stable, unique reservation id. -/
  reservationId : String
  /-- Session that owns this reservation. -/
  sessionId : String
  /-- Path the reservation covers. -/
  path : PathBuf
  /-- Reservation strength. -/
  mode : ReservationMode
  /-- When the reservation was acquired. -/
  acquiredAt : DateTime
  /-- When the reservation expires. -/
  expiresAt : DateTime

def Reservation.toValue [Chrono] (reservation : Reservation) : Value :=
  .object [
    ("reservation_id", .string reservation.reservationId),
    ("session_id", .string reservation.sessionId),
    ("path", reservation.path.toValue),
    ("mode", reservation.mode.toValue),
    ("acquired_at", reservation.acquiredAt.toValue),
    ("expires_at", reservation.expiresAt.toValue)]

/-! ## Inbox -/

/-- Delivery priority of a message. -/
inductive Priority
  | low
  | normal
  | high
  deriving DecidableEq

/-- `rename_all = "snake_case"`. -/
def Priority.toValue : Priority → Value
  | .low => .string "low"
  | .normal => .string "normal"
  | .high => .string "high"

/-- A message from one session to another. -/
structure InboxMessage where
  /-- Stable, unique message id. -/
  messageId : String
  /-- Sender session id. -/
  fromSession : String
  /-- Recipient session id. -/
  toSession : String
  /-- Short subject. -/
  subject : String
  /-- Full message body. -/
  body : String
  /-- Delivery priority. -/
  priority : Priority
  /-- When the message was posted. -/
  ts : DateTime
  /-- Whether the recipient has read the message. -/
  read : Bool

def InboxMessage.toValue [Chrono] (message : InboxMessage) : Value :=
  .object [
    ("message_id", .string message.messageId),
    ("from_session", .string message.fromSession),
    ("to_session", .string message.toSession),
    ("subject", .string message.subject),
    ("body", .string message.body),
    ("priority", message.priority.toValue),
    ("ts", message.ts.toValue),
    ("read", .bool message.read)]

end TeamComm
