import TeamComm.Client.Methods

/-!
# CLI commands

What each subcommand of `teamcomm` that talks to the daemon sends for its arguments.
-/

namespace TeamComm

open Json (Value)

/-- A path argument of the command line. -/
inductive ArgPath
  /-- A path in UTF-8. -/
  | text (path : PathBuf)
  /-- Any other bytes. -/
  | bytes (bytes : List UInt8)

/-- The serde encoding of a path argument; the `json!` macro panics without one. -/
def ArgPath.toValue : ArgPath → Option Value
  | .text path => some path.toValue
  | .bytes _ => none

/-- The serde encoding of an optional path argument. -/
def optionalPath : Option ArgPath → Option Value
  | none => some .null
  | some path => path.toValue

/-- The mode of a claim. -/
inductive ModeArg
  | read
  | write
  | exclusive

def ModeArg.modeStr : ModeArg → String
  | .read => "read"
  | .write => "write"
  | .exclusive => "exclusive"

/-- The priority of a message. -/
inductive PriorityArg
  | low
  | normal
  | high

def PriorityArg.priorityStr : PriorityArg → String
  | .low => "low"
  | .normal => "normal"
  | .high => "high"

namespace Cli

/-- `sessions show`. -/
def sessionsShow (sessionId : String) : Option MethodCall :=
  some ⟨"session.get", .object [("session_id", .string sessionId)]⟩

/-- `reservations ls`. -/
def reservationsLs (path : Option ArgPath) : Option MethodCall := do
  let path ← optionalPath path
  return ⟨"reservation.list", .object [("path", path)]⟩

/-- `reservations claim`. -/
def reservationsClaim (path : ArgPath) (session : String) (mode : ModeArg) (ttlSec : UInt64) :
    Option MethodCall := do
  let path ← path.toValue
  return ⟨"reservation.claim", .object [
    ("session", .string session),
    ("path", path),
    ("mode", .string mode.modeStr),
    ("ttl_sec", .u64 ttlSec)]⟩

/-- `reservations release`. -/
def reservationsRelease (reservationId : String) : Option MethodCall :=
  some ⟨"reservation.release", .object [("reservation_id", .string reservationId)]⟩

/-- `inbox list`. -/
def inboxList (session : String) (unread : Bool) (limit : UInt32) : Option MethodCall :=
  some ⟨"inbox.list", .object [
    ("session", .string session),
    ("unread_only", .bool unread),
    ("limit", .u64 limit.toUInt64)]⟩

/-- `inbox read`. -/
def inboxRead (messageId : String) : Option MethodCall :=
  some ⟨"inbox.read", .object [("message_id", .string messageId)]⟩

/-- `inbox post`. -/
def inboxPost (fromSession toSession subject body : String) (priority : PriorityArg) :
    Option MethodCall :=
  some ⟨"inbox.post", .object [
    ("from_session", .string fromSession),
    ("to_session", .string toSession),
    ("subject", .string subject),
    ("body", .string body),
    ("priority", .string priority.priorityStr)]⟩

/-- `state show`. -/
def stateShow (session : Option String) : Option MethodCall :=
  some ⟨"state.get", .object [("session", optionValue .string session)]⟩

/-- `state set-focus`. -/
def stateSetFocus (file : ArgPath) (session : Option String) : Option MethodCall := do
  let file ← file.toValue
  return ⟨"state.set_focus", .object [
    ("file", file),
    ("session", optionValue .string session)]⟩

/-- `state set-status`. -/
def stateSetStatus (status : String) (session : Option String) : Option MethodCall :=
  some ⟨"state.set_status", .object [
    ("status", .string status),
    ("session", optionValue .string session)]⟩

/-- `discover agents`. -/
def discoverAgents (path : Option ArgPath) (branch : Option String) (capability : List String) :
    Option MethodCall := do
  let path ← optionalPath path
  return ⟨"discover.agents", .object [
    ("path", path),
    ("branch", optionValue .string branch),
    ("capabilities", .array (capability.map .string))]⟩

end Cli

/-- A subcommand which talks to the daemon, with its arguments. -/
inductive CliCommand
  | sessionsShow (sessionId : String)
  | reservationsLs (path : Option ArgPath)
  | reservationsClaim (path : ArgPath) (session : String) (mode : ModeArg) (ttlSec : UInt64)
  | reservationsRelease (reservationId : String)
  | inboxList (session : String) (unread : Bool) (limit : UInt32)
  | inboxRead (messageId : String)
  | inboxPost (fromSession toSession subject body : String) (priority : PriorityArg)
  | stateShow (session : Option String)
  | stateSetFocus (file : ArgPath) (session : Option String)
  | stateSetStatus (status : String) (session : Option String)
  | discoverAgents (path : Option ArgPath) (branch : Option String) (capability : List String)

/-- What a subcommand sends, unless it panics. -/
def CliCommand.sent : CliCommand → Option MethodCall
  | .sessionsShow sessionId => Cli.sessionsShow sessionId
  | .reservationsLs path => Cli.reservationsLs path
  | .reservationsClaim path session mode ttlSec => Cli.reservationsClaim path session mode ttlSec
  | .reservationsRelease reservationId => Cli.reservationsRelease reservationId
  | .inboxList session unread limit => Cli.inboxList session unread limit
  | .inboxRead messageId => Cli.inboxRead messageId
  | .inboxPost fromSession toSession subject body priority =>
      Cli.inboxPost fromSession toSession subject body priority
  | .stateShow session => Cli.stateShow session
  | .stateSetFocus file session => Cli.stateSetFocus file session
  | .stateSetStatus status session => Cli.stateSetStatus status session
  | .discoverAgents path branch capability => Cli.discoverAgents path branch capability

end TeamComm
