import TeamComm.Daemon.State

/-!
# Method handlers

One handler for each method of the protocol.  A handler takes the raw `params` value and returns
the result payload or an error; the clock reading, the minted UUID and the map iteration order of
the call come with its environment.
-/

namespace TeamComm

open Json (Value)

/-- Heartbeat interval recommended to agents, in seconds. -/
def heartbeatIntervalSec : UInt64 := 30

/-- Session lease length, in seconds. -/
def leaseTtlSec : UInt64 := 90

/-- `usize::MAX`. -/
def usizeMax : Nat := 2 ^ 64 - 1

/-! ## Reading parameters -/

/-- A string field. -/
def getStr (payload : Value) (field : String) : Option String :=
  (payload.get field).bind Json.asStr

/-- A non-negative integer field. -/
def getU64 (payload : Value) (field : String) : Option UInt64 :=
  (payload.get field).bind Json.asU64

/-- A Boolean field. -/
def getBool (payload : Value) (field : String) : Option Bool :=
  (payload.get field).bind Json.asBool

/-- A path field. -/
def getPath (payload : Value) (field : String) : Option PathBuf :=
  (getStr payload field).map PathBuf.mk

/-- The strings of an array field. -/
def getStrings (payload : Value) (field : String) : List String :=
  (((payload.get field).bind Json.asArray).map (List.filterMap Json.asStr)).getD []

/-- An array of strings is read as it was written. -/
theorem getStrings_array {payload : Value} {field : String} {texts : List String}
    (found : payload.get field = some (Value.array (texts.map .string)).doc) :
    getStrings payload field = texts := by
  have read : Json.asStr ∘ Value.doc ∘ Value.string = some := rfl
  simp [getStrings, found, Value.array, Json.asArray, List.filterMap_map, read]

/-- A field which has to be there. -/
def required {α : Type} (field : String) : Option α → Except TeamcommError α
  | some value => .ok value
  | none => .error (.invalidParams s!"missing required field: {field}")

/-- A string field which has to be there. -/
def requiredStr (payload : Value) (field : String) : Except TeamcommError String :=
  required field (getStr payload field)

theorem requiredStr_eq_ok {payload : Value} {field text : String} :
    requiredStr payload field = .ok text ↔ getStr payload field = some text := by
  unfold requiredStr required
  cases getStr payload field <;> simp

/-- Map a free-form agent kind to the typed enumeration. -/
def parseAgentType (text : String) : AgentType :=
  match toAsciiLowercase text with
  | "forge" => .forge
  | "codex" => .codex
  | "claude" => .claude
  | "copilot" => .copilot
  | other => .custom other

def parseReservationMode (text : String) : Except TeamcommError ReservationMode :=
  match toAsciiLowercase text with
  | "read" => .ok .read
  | "write" => .ok .write
  | "exclusive" => .ok .exclusive
  | other => .error (.invalidParams s!"unknown reservation mode: {other}")

def parsePriority (text : String) : Except TeamcommError Priority :=
  match toAsciiLowercase text with
  | "low" => .ok .low
  | "normal" => .ok .normal
  | "high" => .ok .high
  | other => .error (.invalidParams s!"unknown priority: {other}")

def parseAgentStatus (text : String) : Except TeamcommError AgentStatus :=
  match toAsciiLowercase text with
  | "idle" => .ok .idle
  | "working" => .ok .working
  | "blocked" => .ok .blocked
  | "done" => .ok .done
  | "stuck" => .ok .stuck
  | other => .error (.invalidParams s!"unknown agent status: {other}")

/-- Whether a new claim conflicts with an existing one on the same path. -/
def modeConflicts (new existing : ReservationMode) : Bool :=
  match new with
  | .read => existing = .exclusive
  | .write => existing = .write || existing = .exclusive
  | .exclusive => true

theorem modeConflicts_comm (left right : ReservationMode) :
    modeConflicts left right = modeConflicts right left := by
  cases left <;> cases right <;> rfl

/-- Whether an existing reservation conflicts with a claim made at an instant. -/
def blocksClaim (now : DateTime) (sessionId : String) (path : PathBuf) (mode : ReservationMode)
    (existing : Reservation) : Bool :=
  existing.path == path && existing.sessionId != sessionId && decide (now < existing.expiresAt) &&
    modeConflicts mode existing.mode

/-- `now + Duration::seconds(ttl_sec as i64)`, which panics out of range. -/
def expiry (now : DateTime) (ttlSec : UInt64) : Except Failure DateTime :=
  match trySeconds (asI64 ttlSec) with
  | none => .error (.panic "TimeDelta::seconds out of bounds")
  | some span =>
      match now.checkedAddSigned span with
      | none => .error (.panic "`DateTime + TimeDelta` overflowed")
      | some expires => .ok expires

/-- No step of the expiry refuses a claim. -/
theorem expiry_ne_error (now : DateTime) (ttlSec : UInt64) (error : TeamcommError) :
    expiry now ttlSec ≠ .error (.error error) := by
  intro refused
  unfold expiry at refused
  split at refused
  next => cases refused
  next => split at refused <;> cases refused

/-- Fail unless a session is registered. -/
def requireSession (sessionId : String) : Handler PUnit := do
  if (← get).sessions.containsKey sessionId then
    pure ⟨⟩
  else
    throw (.error (.notFound s!"session {sessionId}"))

@[simp] theorem exec_requireSession_bind {α : Type} (sessionId : String)
    (next : PUnit → Handler α) (state : AppStateInner) :
    (requireSession sessionId >>= next).exec state =
      if state.sessions.containsKey sessionId then (next ⟨⟩).exec state
      else (.error (.error (.notFound s!"session {sessionId}")), state) := by
  rw [requireSession, bind_assoc, Handler.exec_get_bind]
  split <;> simp

/-! ## Sessions -/

/-- Store a freshly minted session and return its id. -/
def insertNewSession (env : Env) (pid : UInt32) (agentType : AgentType) (workingDir : PathBuf)
    (capabilities : List String) : Handler String := do
  let guard ← get
  let sessionId := env.mintSessionId
  let session : Session :=
    { sessionId, agentType, pid, startedAt := env.now, workingDir, capabilities,
      lastHeartbeat := env.now }
  set { guard with
    sessions := guard.sessions.insert sessionId session
    sessionsByPid := guard.sessionsByPid.insert pid sessionId }
  return sessionId

/-- `session.register`: create the session of a pid, or refresh the one it has. -/
def handleSessionRegister (env : Env) (payload : Value) : Handler Value := do
  let pid ← required "pid" (getU64 payload "pid")
  let pid := pid.toUInt32
  let agentType := parseAgentType ((getStr payload "agent_type").getD "custom")
  let workingDir := (getPath payload "working_dir").getD ⟨"/"⟩
  let capabilities := getStrings payload "capabilities"
  let guard ← get
  let sessionId ← match guard.sessionsByPid.get pid with
    | some existingId =>
        match guard.sessions.get existingId with
        | some existing => do
            set { guard with
              sessions :=
                guard.sessions.insert existingId { existing with lastHeartbeat := env.now } }
            pure existingId
        -- The reverse index is out of sync.
        | none => insertNewSession env pid agentType workingDir capabilities
    | none => insertNewSession env pid agentType workingDir capabilities
  return .object [("session_id", .string sessionId), ("lease_ttl_sec", .u64 leaseTtlSec)]

/-- `session.deregister`: remove a session; an unknown one is a success as well. -/
def handleSessionDeregister (payload : Value) : Handler Value := do
  let sessionId ← requiredStr payload "session_id"
  let guard ← get
  match guard.sessions.get sessionId with
  | some removed =>
      set { guard with
        sessions := guard.sessions.remove sessionId
        sessionsByPid := guard.sessionsByPid.remove removed.pid }
  | none => pure ⟨⟩
  return .object [("ok", .bool true)]

/-- `session.heartbeat`: refresh the last heartbeat of a session. -/
def handleSessionHeartbeat (env : Env) (payload : Value) : Handler Value := do
  let sessionId ← requiredStr payload "session_id"
  let guard ← get
  match guard.sessions.get sessionId with
  | some session =>
      set { guard with
        sessions := guard.sessions.insert sessionId { session with lastHeartbeat := env.now } }
  | none => throw (.error (.notFound s!"session {sessionId}"))
  return .object [("ok", .bool true), ("next_heartbeat_sec", .u64 heartbeatIntervalSec)]

section Replies

variable [Chrono]

/-- `session.list`: all registered sessions. -/
def handleSessionList (env : Env) (_payload : Value) : Handler Value := do
  let guard ← get
  return .array ((env.order.arrange guard.sessions.values).map Session.toValue)

/-- `session.get`: one session. -/
def handleSessionGet (payload : Value) : Handler Value := do
  let sessionId ← requiredStr payload "session_id"
  let guard ← get
  match guard.sessions.get sessionId with
  | some session => return session.toValue
  | none => throw (.error (.notFound s!"session {sessionId}"))

/-! ## Reservations -/

/-- `reservation.claim`: claim an advisory lock on a path. -/
def handleReservationClaim (env : Env) (payload : Value) : Handler Value := do
  let sessionId ← requiredStr payload "session_id"
  let path ← required "path" (getPath payload "path")
  let mode ← parseReservationMode ((getStr payload "mode").getD "write")
  let ttlSec := (getU64 payload "ttl_sec").getD 600
  let expires ← expiry env.now ttlSec
  requireSession sessionId
  let guard ← get
  let conflicts :=
    (env.order.arrange guard.reservations.values).filter (blocksClaim env.now sessionId path mode)
  let reservationId := env.mintReservationId
  let reservation : Reservation :=
    { reservationId, sessionId, path, mode, acquiredAt := env.now, expiresAt := expires }
  set { guard with reservations := guard.reservations.insert reservationId reservation }
  return .object [
    ("reservation_id", .string reservationId),
    ("conflicts", .array (conflicts.map Reservation.toValue))]

/-- `reservation.release`: release a reservation. -/
def handleReservationRelease (payload : Value) : Handler Value := do
  let reservationId ← requiredStr payload "reservation_id"
  let guard ← get
  set { guard with reservations := guard.reservations.remove reservationId }
  match guard.reservations.get reservationId with
  | none => throw (.error (.notFound s!"reservation {reservationId}"))
  | some _ => return .object [("ok", .bool true)]

/-- `reservation.list`: the unexpired reservations, by default on every path. -/
def handleReservationList (env : Env) (payload : Value) : Handler Value := do
  let guard ← get
  let reservations := (env.order.arrange guard.reservations.values).filter fun reservation =>
    decide (env.now < reservation.expiresAt)
  let listed := match getPath payload "path" with
    | none => reservations
    | some front => reservations.filter fun reservation =>
        startsWith reservation.path.inner front.inner
  return .array (listed.map Reservation.toValue)

/-! ## Inbox -/

/-- `inbox.post`: post a message to another session. -/
def handleInboxPost (env : Env) (payload : Value) : Handler Value := do
  let fromSession ← requiredStr payload "from_session"
  let toSession ← requiredStr payload "to_session"
  let subject := (getStr payload "subject").getD ""
  let body := (getStr payload "body").getD ""
  let priority ← parsePriority ((getStr payload "priority").getD "normal")
  requireSession fromSession
  let guard ← get
  let message : InboxMessage :=
    { messageId := env.mintMessageId, fromSession, toSession, subject, body, priority,
      ts := env.now, read := false }
  let posted := (guard.inbox.get toSession).getD [] ++ [message]
  set { guard with inbox := guard.inbox.insert toSession posted }
  return .object [("message_id", .string message.messageId)]

/-- Ids of the first messages, or of the first unread ones; no limit when it is zero. -/
def resultIds (unreadOnly : Bool) (limit : UInt64) (messages : List InboxMessage) : List String :=
  ((messages.filter fun message => !unreadOnly || !message.read).take
    (if 0 < limit then limit.toNat else usizeMax)).map InboxMessage.messageId

/-- Mark the messages whose ids are listed as read. -/
def markRead (listed : List String) (messages : List InboxMessage) : List InboxMessage :=
  messages.map fun message =>
    if message.messageId ∈ listed then { message with read := true } else message

/-- `inbox.list`: the first messages of a session, or its first unread ones, which this marks as
read. -/
def handleInboxList (payload : Value) : Handler Value := do
  let sessionId ← requiredStr payload "session_id"
  let unreadOnly := (getBool payload "unread_only").getD false
  let limit := (getU64 payload "limit").getD 50
  let guard ← get
  let messages := (guard.inbox.get sessionId).getD []
  let listed := resultIds unreadOnly limit messages
  let marked := markRead listed messages
  set { guard with inbox := guard.inbox.insert sessionId marked }
  let result := marked.filter fun message => message.messageId ∈ listed
  return .array (result.map InboxMessage.toValue)

/-- Mark the first message with an id as read, and return it. -/
def readFirst (messageId : String) : List InboxMessage → Option (InboxMessage × List InboxMessage)
  | [] => none
  | message :: messages =>
      if message.messageId = messageId then
        let message := { message with read := true }
        some (message, message :: messages)
      else
        (readFirst messageId messages).map fun (found, rest) => (found, message :: rest)

/-- `inbox.read`: one message by id, searched in every inbox. -/
def handleInboxRead (env : Env) (payload : Value) : Handler Value := do
  let messageId ← requiredStr payload "message_id"
  let guard ← get
  let found := (env.order.arrange guard.inbox.entries).findSome? fun entry =>
    (readFirst messageId entry.2).map fun (message, messages) => (entry.1, message, messages)
  match found with
  | some (owner, message, messages) =>
      set { guard with inbox := guard.inbox.insert owner messages }
      return message.toValue
  | none => throw (.error (.notFound s!"message {messageId}"))

/-! ## Live state -/

/-- `state.set`: publish the live state of a session. -/
def handleStateSet (env : Env) (payload : Value) : Handler Value := do
  let sessionId ← requiredStr payload "session_id"
  let focusFile := getPath payload "focus_file"
  let focusBranch := getStr payload "focus_branch"
  let worktree := getPath payload "worktree"
  let status ← parseAgentStatus ((getStr payload "status").getD "idle")
  requireSession sessionId
  let guard ← get
  let live : LiveState :=
    { sessionId, focusFile, focusBranch, worktree, status, lastHeartbeat := env.now }
  set { guard with liveState := guard.liveState.insert sessionId live }
  return .object [("ok", .bool true)]

/-- `state.get`: the live state of a session. -/
def handleStateGet (payload : Value) : Handler Value := do
  let sessionId ← requiredStr payload "session_id"
  let guard ← get
  match guard.liveState.get sessionId with
  | some live => return live.toValue
  | none => throw (.error (.notFound s!"live state for session {sessionId}"))

/-! ## Discovery -/

/-- Whether a session passes the filters of a discovery query. -/
def discovered (pathFilter : Option PathBuf) (branchFilter : Option String)
    (capabilitiesFilter : List String) (session : Session) (live : Option LiveState) : Bool :=
  (match pathFilter with
    | none => true
    | some front =>
        match live.bind LiveState.focusFile with
        | some focusFile => startsWith focusFile.inner front.inner
        | none => false) &&
  (match branchFilter with
    | none => true
    | some branch => live.map LiveState.focusBranch = some (some branch)) &&
  capabilitiesFilter.all fun capability => capability ∈ session.capabilities

/-- `discover.agents`: summaries of the sessions which pass the filters. -/
def handleDiscoverAgents (env : Env) (payload : Value) : Handler Value := do
  let pathFilter := getPath payload "path"
  let branchFilter := getStr payload "branch"
  let capabilitiesFilter := getStrings payload "capabilities"
  let guard ← get
  let summaries := (env.order.arrange guard.sessions.entries).filterMap fun ⟨id, session⟩ =>
    let live := guard.liveState.get id
    if discovered pathFilter branchFilter capabilitiesFilter session live then
      some {
        sessionId := id
        agentType := session.agentType
        pid := session.pid
        status := (live.map LiveState.status).getD .idle
        focusFile := live.bind LiveState.focusFile
        lastHeartbeat := session.lastHeartbeat : SessionSummary }
    else none
  return .array (summaries.map SessionSummary.toValue)

end Replies

end TeamComm
