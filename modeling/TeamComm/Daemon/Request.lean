import TeamComm.Daemon.Registration

/-!
# Typed requests

What the handlers read off a method name and its parameters, and what the daemon does about it.
Reading a request depends on nothing but the parameters, performing one on nothing but what was
read: `exec_dispatch` splits every dispatched call into the two.
-/

namespace TeamComm

open Json (Value)

/-- A request as its handler has read it. -/
inductive Request
  | sessionRegister (pid : UInt32) (agentType : AgentType) (workingDir : PathBuf)
      (capabilities : List String)
  | sessionDeregister (sessionId : String)
  | sessionHeartbeat (sessionId : String)
  | sessionList
  | sessionGet (sessionId : String)
  | reservationClaim (sessionId : String) (path : PathBuf) (mode : ReservationMode)
      (ttlSec : UInt64)
  | reservationRelease (reservationId : String)
  | reservationList (path : Option PathBuf)
  | inboxPost (fromSession toSession subject body : String) (priority : Priority)
  | inboxList (sessionId : String) (unreadOnly : Bool) (limit : UInt64)
  | inboxRead (messageId : String)
  | stateSet (sessionId : String) (focusFile : Option PathBuf) (focusBranch : Option String)
      (worktree : Option PathBuf) (status : AgentStatus)
  | stateGet (sessionId : String)
  | discoverAgents (path : Option PathBuf) (branch : Option String) (capabilities : List String)

namespace Request

/-- Read the parameters of a method, with the defaults of its handler. -/
def read (method : String) (params : Value) : Except TeamcommError Request :=
  match method with
  | "session.register" => do
      let pid ← required "pid" (getU64 params "pid")
      return .sessionRegister pid.toUInt32
        (parseAgentType ((getStr params "agent_type").getD "custom"))
        ((getPath params "working_dir").getD ⟨"/"⟩) (getStrings params "capabilities")
  | "session.deregister" => return .sessionDeregister (← requiredStr params "session_id")
  | "session.heartbeat" => return .sessionHeartbeat (← requiredStr params "session_id")
  | "session.list" => return .sessionList
  | "session.get" => return .sessionGet (← requiredStr params "session_id")
  | "reservation.claim" => do
      let sessionId ← requiredStr params "session_id"
      let path ← required "path" (getPath params "path")
      let mode ← parseReservationMode ((getStr params "mode").getD "write")
      return .reservationClaim sessionId path mode ((getU64 params "ttl_sec").getD 600)
  | "reservation.release" => return .reservationRelease (← requiredStr params "reservation_id")
  | "reservation.list" => return .reservationList (getPath params "path")
  | "inbox.post" => do
      let fromSession ← requiredStr params "from_session"
      let toSession ← requiredStr params "to_session"
      let priority ← parsePriority ((getStr params "priority").getD "normal")
      return .inboxPost fromSession toSession ((getStr params "subject").getD "")
        ((getStr params "body").getD "") priority
  | "inbox.list" => do
      let sessionId ← requiredStr params "session_id"
      return .inboxList sessionId ((getBool params "unread_only").getD false)
        ((getU64 params "limit").getD 50)
  | "inbox.read" => return .inboxRead (← requiredStr params "message_id")
  | "state.set" => do
      let sessionId ← requiredStr params "session_id"
      let status ← parseAgentStatus ((getStr params "status").getD "idle")
      return .stateSet sessionId (getPath params "focus_file") (getStr params "focus_branch")
        (getPath params "worktree") status
  | "state.get" => return .stateGet (← requiredStr params "session_id")
  | "discover.agents" =>
      return .discoverAgents (getPath params "path") (getStr params "branch")
        (getStrings params "capabilities")
  | other => .error (.methodNotFound other)

/-- The answer of a request which only has to succeed. -/
def okReply : Value := .object [("ok", .bool true)]

/-- A request names something which is not there. -/
def missing (detail : String) (state : AppStateInner) : Except Failure Value × AppStateInner :=
  (.error (.error (.notFound detail)), state)

variable [Chrono]

/-- The answer to a request and the state it leaves behind. -/
def perform (env : Env) (state : AppStateInner) : Request → Except Failure Value × AppStateInner
  | sessionRegister pid agentType workingDir capabilities =>
      match sessionOf state pid with
      | some (id, existing) => (.ok (registerReply id),
          { state with
            sessions := state.sessions.insert id { existing with lastHeartbeat := env.now } })
      | none => (.ok (registerReply env.mintSessionId),
          { state with
            sessions := state.sessions.insert env.mintSessionId
              (newSession env pid agentType workingDir capabilities)
            sessionsByPid := state.sessionsByPid.insert pid env.mintSessionId })
  | sessionDeregister sessionId =>
      match state.sessions.get sessionId with
      | some removed => (.ok okReply,
          { state with
            sessions := state.sessions.remove sessionId
            sessionsByPid := state.sessionsByPid.remove removed.pid })
      | none => (.ok okReply, state)
  | sessionHeartbeat sessionId =>
      match state.sessions.get sessionId with
      | some session =>
          (.ok (.object [("ok", .bool true), ("next_heartbeat_sec", .u64 heartbeatIntervalSec)]),
            { state with
              sessions :=
                state.sessions.insert sessionId { session with lastHeartbeat := env.now } })
      | none => missing s!"session {sessionId}" state
  | sessionList =>
      (.ok (.array ((env.order.arrange state.sessions.values).map Session.toValue)), state)
  | sessionGet sessionId =>
      match state.sessions.get sessionId with
      | some session => (.ok session.toValue, state)
      | none => missing s!"session {sessionId}" state
  | reservationClaim sessionId path mode ttlSec =>
      match expiry env.now ttlSec with
      | .error failure => (.error failure, state)
      | .ok expires =>
          if state.sessions.containsKey sessionId then
            let claim : Claim := { sessionId, path, mode, expires }
            (.ok (claim.reply env state),
              { state with
                reservations :=
                  state.reservations.insert env.mintReservationId (claim.reservation env) })
          else missing s!"session {sessionId}" state
  | reservationRelease reservationId =>
      match state.reservations.get reservationId with
      | some _ => (.ok okReply,
          { state with reservations := state.reservations.remove reservationId })
      | none => missing s!"reservation {reservationId}" state
  | reservationList path =>
      let unexpired := (env.order.arrange state.reservations.values).filter fun reservation =>
        decide (env.now < reservation.expiresAt)
      let listed := match path with
        | none => unexpired
        | some front => unexpired.filter fun reservation =>
            startsWith reservation.path.inner front.inner
      (.ok (.array (listed.map Reservation.toValue)), state)
  | inboxPost fromSession toSession subject body priority =>
      if state.sessions.containsKey fromSession then
        let message : InboxMessage :=
          { messageId := env.mintMessageId, fromSession, toSession, subject, body, priority,
            ts := env.now, read := false }
        (.ok (.object [("message_id", .string message.messageId)]),
          { state with
            inbox := state.inbox.insert toSession
              ((state.inbox.get toSession).getD [] ++ [message]) })
      else missing s!"session {fromSession}" state
  | inboxList sessionId unreadOnly limit =>
      let messages := (state.inbox.get sessionId).getD []
      let listed := resultIds unreadOnly limit messages
      let marked := markRead listed messages
      (.ok (.array ((marked.filter fun message => message.messageId ∈ listed).map
          InboxMessage.toValue)),
        { state with inbox := state.inbox.insert sessionId marked })
  | inboxRead messageId =>
      match (env.order.arrange state.inbox.entries).findSome? fun entry =>
          (readFirst messageId entry.2).map fun (message, messages) =>
            (entry.1, message, messages) with
      | some (owner, message, messages) =>
          (.ok message.toValue, { state with inbox := state.inbox.insert owner messages })
      | none => missing s!"message {messageId}" state
  | stateSet sessionId focusFile focusBranch worktree status =>
      if state.sessions.containsKey sessionId then
        let live : LiveState :=
          { sessionId, focusFile, focusBranch, worktree, status, lastHeartbeat := env.now }
        (.ok okReply, { state with liveState := state.liveState.insert sessionId live })
      else missing s!"session {sessionId}" state
  | stateGet sessionId =>
      match state.liveState.get sessionId with
      | some live => (.ok live.toValue, state)
      | none => missing s!"live state for session {sessionId}" state
  | discoverAgents path branch capabilities =>
      let summaries := (env.order.arrange state.sessions.entries).filterMap fun ⟨id, session⟩ =>
        let live := state.liveState.get id
        if discovered path branch capabilities session live then
          some {
            sessionId := id
            agentType := session.agentType
            pid := session.pid
            status := (live.map LiveState.status).getD .idle
            focusFile := live.bind LiveState.focusFile
            lastHeartbeat := session.lastHeartbeat : SessionSummary }
        else none
      (.ok (.array (summaries.map SessionSummary.toValue)), state)

/-! ## Dispatch reads, then performs -/

/-- What a dispatched call does once its parameters have been read. -/
def performed (env : Env) (state : AppStateInner) :
    Except TeamcommError Request → Except Failure Value × AppStateInner
  | .error error => (.error (.error error), state)
  | .ok request => request.perform env state

theorem exec_dispatch (method : String) (params : Value) (env : Env) (state : AppStateInner) :
    (dispatch method params env).exec state = performed env state (read method params) := by
  unfold dispatch
  split
  · rw [exec_sessionRegister, read]
    cases getU64 params "pid" <;> rfl
  · simp only [handleSessionDeregister, Handler.exec_check_bind, Handler.exec_get_bind, read]
    cases requiredStr params "session_id" with
    | error => rfl
    | ok sessionId =>
        change _ = (sessionDeregister sessionId).perform env state
        simp only [perform]
        cases state.sessions.get sessionId <;> rfl
  · simp only [handleSessionHeartbeat, Handler.exec_check_bind, Handler.exec_get_bind, read]
    cases requiredStr params "session_id" with
    | error => rfl
    | ok sessionId =>
        change _ = (sessionHeartbeat sessionId).perform env state
        simp only [perform]
        cases state.sessions.get sessionId <;> rfl
  · rfl
  · simp only [handleSessionGet, Handler.exec_check_bind, Handler.exec_get_bind, read]
    cases requiredStr params "session_id" with
    | error => rfl
    | ok sessionId =>
        change _ = (sessionGet sessionId).perform env state
        simp only [perform]
        cases state.sessions.get sessionId <;> rfl
  · rw [exec_reservationClaim, claimOf, read]
    cases requiredStr params "session_id" with
    | error => rfl
    | ok sessionId =>
        cases required "path" (getPath params "path") with
        | error => rfl
        | ok path =>
            cases parseReservationMode ((getStr params "mode").getD "write") with
            | error => rfl
            | ok mode =>
                change _ = (reservationClaim sessionId path mode _).perform env state
                simp only [perform]
                cases expiry env.now ((getU64 params "ttl_sec").getD 600) <;> rfl
  · simp only [handleReservationRelease, Handler.exec_check_bind, Handler.exec_get_bind,
      Handler.exec_set_bind, read]
    cases requiredStr params "reservation_id" with
    | error => rfl
    | ok reservationId =>
        change _ = (reservationRelease reservationId).perform env state
        simp only [perform]
        cases found : state.reservations.get reservationId with
        | some => rfl
        | none =>
            rw [HashMap.remove_of_get_none found]
            rfl
  · rfl
  · simp only [handleInboxPost, Handler.exec_check_bind, exec_requireSession_bind, read]
    cases requiredStr params "from_session" with
    | error => rfl
    | ok fromSession =>
        cases requiredStr params "to_session" with
        | error => rfl
        | ok toSession => cases parsePriority ((getStr params "priority").getD "normal") <;> rfl
  · rw [read]
    simp only [handleInboxList, Handler.exec_check_bind]
    cases requiredStr params "session_id" <;> rfl
  · simp only [handleInboxRead, Handler.exec_check_bind, Handler.exec_get_bind, read]
    cases requiredStr params "message_id" with
    | error => rfl
    | ok messageId =>
        change _ = (inboxRead messageId).perform env state
        simp only [perform]
        generalize (env.order.arrange state.inbox.entries).findSome? (fun entry =>
          (readFirst messageId entry.2).map fun (message, messages) =>
            (entry.1, message, messages)) = found
        rcases found with _ | ⟨owner, message, messages⟩
        · rfl
        · rfl
  · simp only [handleStateSet, Handler.exec_check_bind, exec_requireSession_bind, read]
    cases requiredStr params "session_id" with
    | error => rfl
    | ok sessionId => cases parseAgentStatus ((getStr params "status").getD "idle") <;> rfl
  · simp only [handleStateGet, Handler.exec_check_bind, Handler.exec_get_bind, read]
    cases requiredStr params "session_id" with
    | error => rfl
    | ok sessionId =>
        change _ = (stateGet sessionId).perform env state
        simp only [perform]
        cases state.liveState.get sessionId <;> rfl
  · rfl
  · simp [read, performed]

/-- A call whose parameters can be read performs its request. -/
theorem step_of_read {call : Call} {request : Request} (state : AppStateInner)
    (read : Request.read call.method call.params = .ok request) :
    daemon.step state call = request.perform call.env state := by
  change (dispatch call.method call.params call.env).exec state = _
  rw [exec_dispatch, read, performed]

/-- A call whose parameters cannot be read does nothing. -/
theorem step_of_error {call : Call} {error : TeamcommError} (state : AppStateInner)
    (read : Request.read call.method call.params = .error error) :
    daemon.step state call = (.error (.error error), state) := by
  change (dispatch call.method call.params call.env).exec state = _
  rw [exec_dispatch, read, performed]

/-! ## What a request leaves alone -/

/-- Requests which may change the sessions. -/
def writesSessions : Request → Bool
  | sessionRegister .. | sessionDeregister _ | sessionHeartbeat _ => true
  | _ => false

/-- Requests which may change the inboxes. -/
def writesInbox : Request → Bool
  | inboxPost .. | inboxList .. | inboxRead _ => true
  | _ => false

private theorem unchanged_perform (env : Env) (state : AppStateInner) (request : Request) :
    (request.writesSessions = false → (request.perform env state).2.sessions = state.sessions) ∧
      (request.writesInbox = false → (request.perform env state).2.inbox = state.inbox) := by
  cases request with
  | sessionRegister | sessionDeregister | sessionHeartbeat =>
      refine ⟨fun other => (by cases other), fun _ => ?_⟩
      rw [perform]
      split <;> rfl
  | inboxPost | inboxRead =>
      refine ⟨fun _ => ?_, fun other => (by cases other)⟩
      rw [perform]
      split <;> rfl
  | inboxList => exact ⟨fun _ => rfl, fun other => (by cases other)⟩
  | reservationClaim =>
      rw [perform]
      split
      · exact ⟨fun _ => rfl, fun _ => rfl⟩
      · split <;> exact ⟨fun _ => rfl, fun _ => rfl⟩
  | sessionGet | reservationRelease | stateSet | stateGet =>
      rw [perform]
      split <;> exact ⟨fun _ => rfl, fun _ => rfl⟩
  | sessionList | reservationList | discoverAgents => exact ⟨fun _ => rfl, fun _ => rfl⟩

theorem sessions_perform {request : Request} (other : request.writesSessions = false) (env : Env)
    (state : AppStateInner) : (request.perform env state).2.sessions = state.sessions :=
  (unchanged_perform env state request).1 other

theorem inbox_perform {request : Request} (other : request.writesInbox = false) (env : Env)
    (state : AppStateInner) : (request.perform env state).2.inbox = state.inbox :=
  (unchanged_perform env state request).2 other

end Request

end TeamComm
