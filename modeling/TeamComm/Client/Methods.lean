import TeamComm.Daemon.Request

/-!
# Typed client methods

What each typed method of the client sends: a method name and its parameters.
-/

namespace TeamComm

open Json (Value)

/-- A method name with the parameters sent along. -/
structure MethodCall where
  /-- Method name. -/
  method : String
  /-- Method-specific parameters. -/
  params : Value

/-- A member which is stored only when its value is given. -/
def givenStr (name : String) : Option String → List (String × Value)
  | some text => [(name, .string text)]
  | none => []

namespace Client

/-! ## Session methods -/

def sessionRegister (pid : UInt32) (agentType : String) (workingDir : Option String)
    (capabilities : List String) : MethodCall where
  method := "session.register"
  params := .object ([
    ("pid", .u64 pid.toUInt64),
    ("agent_type", .string agentType),
    ("capabilities", .array (capabilities.map .string))] ++ givenStr "working_dir" workingDir)

def sessionDeregister (sessionId : String) : MethodCall where
  method := "session.deregister"
  params := .object [("session_id", .string sessionId)]

def sessionHeartbeat (sessionId : String) : MethodCall where
  method := "session.heartbeat"
  params := .object [("session_id", .string sessionId)]

def sessionList : MethodCall where
  method := "session.list"
  params := .object []

def sessionGet (sessionId : String) : MethodCall where
  method := "session.get"
  params := .object [("session_id", .string sessionId)]

/-! ## Reservation methods -/

def reservationClaim (sessionId path mode : String) (ttlSec : UInt64) : MethodCall where
  method := "reservation.claim"
  params := .object [
    ("session_id", .string sessionId),
    ("path", .string path),
    ("mode", .string mode),
    ("ttl_sec", .u64 ttlSec)]

def reservationRelease (reservationId : String) : MethodCall where
  method := "reservation.release"
  params := .object [("reservation_id", .string reservationId)]

def reservationList (path : Option String) : MethodCall where
  method := "reservation.list"
  params := .object (givenStr "path" path)

/-! ## Inbox methods -/

def inboxPost (fromSession toSession subject body priority : String) : MethodCall where
  method := "inbox.post"
  params := .object [
    ("from_session", .string fromSession),
    ("to_session", .string toSession),
    ("subject", .string subject),
    ("body", .string body),
    ("priority", .string priority)]

def inboxList (sessionId : String) (unreadOnly : Bool) (limit : UInt32) : MethodCall where
  method := "inbox.list"
  params := .object [
    ("session_id", .string sessionId),
    ("unread_only", .bool unreadOnly),
    ("limit", .u64 limit.toUInt64)]

def inboxRead (messageId : String) : MethodCall where
  method := "inbox.read"
  params := .object [("message_id", .string messageId)]

/-! ## State methods -/

def stateSet (sessionId : String) (focusFile focusBranch worktree : Option String)
    (status : String) : MethodCall where
  method := "state.set"
  params := .object ([
    ("session_id", .string sessionId),
    ("status", .string status)] ++
    givenStr "focus_file" focusFile ++ givenStr "focus_branch" focusBranch ++
    givenStr "worktree" worktree)

def stateGet (sessionId : String) : MethodCall where
  method := "state.get"
  params := .object [("session_id", .string sessionId)]

/-! ## Discovery methods -/

def discoverAgents (path branch : Option String) (capabilities : List String) : MethodCall where
  method := "discover.agents"
  params := .object ([("capabilities", .array (capabilities.map .string))] ++
    givenStr "path" path ++ givenStr "branch" branch)

end Client

/-- A typed client method with its arguments. -/
inductive ClientMethod
  | sessionRegister (pid : UInt32) (agentType : String) (workingDir : Option String)
      (capabilities : List String)
  | sessionDeregister (sessionId : String)
  | sessionHeartbeat (sessionId : String)
  | sessionList
  | sessionGet (sessionId : String)
  | reservationClaim (sessionId path mode : String) (ttlSec : UInt64)
  | reservationRelease (reservationId : String)
  | reservationList (path : Option String)
  | inboxPost (fromSession toSession subject body priority : String)
  | inboxList (sessionId : String) (unreadOnly : Bool) (limit : UInt32)
  | inboxRead (messageId : String)
  | stateSet (sessionId : String) (focusFile focusBranch worktree : Option String)
      (status : String)
  | stateGet (sessionId : String)
  | discoverAgents (path branch : Option String) (capabilities : List String)

namespace ClientMethod

/-- What the method sends. -/
def sent : ClientMethod → MethodCall
  | sessionRegister pid agentType workingDir capabilities =>
      Client.sessionRegister pid agentType workingDir capabilities
  | sessionDeregister sessionId => Client.sessionDeregister sessionId
  | sessionHeartbeat sessionId => Client.sessionHeartbeat sessionId
  | sessionList => Client.sessionList
  | sessionGet sessionId => Client.sessionGet sessionId
  | reservationClaim sessionId path mode ttlSec =>
      Client.reservationClaim sessionId path mode ttlSec
  | reservationRelease reservationId => Client.reservationRelease reservationId
  | reservationList path => Client.reservationList path
  | inboxPost fromSession toSession subject body priority =>
      Client.inboxPost fromSession toSession subject body priority
  | inboxList sessionId unreadOnly limit => Client.inboxList sessionId unreadOnly limit
  | inboxRead messageId => Client.inboxRead messageId
  | stateSet sessionId focusFile focusBranch worktree status =>
      Client.stateSet sessionId focusFile focusBranch worktree status
  | stateGet sessionId => Client.stateGet sessionId
  | discoverAgents path branch capabilities => Client.discoverAgents path branch capabilities

end ClientMethod

end TeamComm
