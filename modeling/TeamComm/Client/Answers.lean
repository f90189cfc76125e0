import TeamComm.Client.Methods

/-!
# Typed answers

What the result of a request is, and what it says about the state of the daemon in front of the
request and behind it.
-/

namespace TeamComm

open Json (Value)

/-- The result of a request which only has to succeed. -/
structure Done where
  ok : Bool

def Done.toValue (done : Done) : Value := .object [("ok", .bool done.ok)]

/-- The result of a registration. -/
structure Registered where
  sessionId : String
  leaseTtlSec : UInt64

def Registered.toValue (registered : Registered) : Value :=
  .object [
    ("session_id", .string registered.sessionId),
    ("lease_ttl_sec", .u64 registered.leaseTtlSec)]

/-- The result of a heartbeat. -/
structure Beaten where
  ok : Bool
  nextHeartbeatSec : UInt64

def Beaten.toValue (beaten : Beaten) : Value :=
  .object [("ok", .bool beaten.ok), ("next_heartbeat_sec", .u64 beaten.nextHeartbeatSec)]

/-- The result of a claim. -/
structure Claimed where
  reservationId : String
  conflicts : List Reservation

def Claimed.toValue [Chrono] (claimed : Claimed) : Value :=
  .object [
    ("reservation_id", .string claimed.reservationId),
    ("conflicts", .array (claimed.conflicts.map Reservation.toValue))]

/-- The result of a post. -/
structure Posted where
  messageId : String

def Posted.toValue (posted : Posted) : Value :=
  .object [("message_id", .string posted.messageId)]

namespace Request

/-- What the result of a request is. -/
def Answer : Request → Type
  | sessionRegister .. => Registered
  | sessionDeregister _ | reservationRelease _ | stateSet .. => Done
  | sessionHeartbeat _ => Beaten
  | sessionList => List Session
  | sessionGet _ => Session
  | reservationClaim .. => Claimed
  | reservationList _ => List Reservation
  | inboxPost .. => Posted
  | inboxList .. => List InboxMessage
  | inboxRead _ => InboxMessage
  | stateGet _ => LiveState
  | discoverAgents .. => List SessionSummary

/-- The result of a request as it is returned. -/
def answerValue [Chrono] : (request : Request) → request.Answer → Value
  | sessionRegister .., registered => Registered.toValue registered
  | sessionDeregister _, done | reservationRelease _, done | stateSet .., done => Done.toValue done
  | sessionHeartbeat _, beaten => Beaten.toValue beaten
  | sessionList, (sessions : List Session) => .array (sessions.map Session.toValue)
  | sessionGet _, session => Session.toValue session
  | reservationClaim .., claimed => Claimed.toValue claimed
  | reservationList _, (reservations : List Reservation) =>
      .array (reservations.map Reservation.toValue)
  | inboxPost .., posted => Posted.toValue posted
  | inboxList .., (messages : List InboxMessage) => .array (messages.map InboxMessage.toValue)
  | inboxRead _, message => InboxMessage.toValue message
  | stateGet _, live => LiveState.toValue live
  | discoverAgents .., (summaries : List SessionSummary) =>
      .array (summaries.map SessionSummary.toValue)

/-- What an answer says about the states in front of a request and behind it. -/
def Reports (env : Env) (before after : AppStateInner) :
    (request : Request) → request.Answer → Prop
  | sessionRegister pid agentType workingDir capabilities, (registered : Registered) =>
      registered.leaseTtlSec = leaseTtlSec ∧
        after.sessionsByPid.get pid = some registered.sessionId ∧
        ∃ session, after.sessions.get registered.sessionId = some session ∧
          session.lastHeartbeat = env.now ∧
          (∀ id existing, sessionOf before pid = some (id, existing) → registered.sessionId = id) ∧
          (sessionOf before pid = none →
            session = newSession env pid agentType workingDir capabilities)
  | sessionDeregister sessionId, (done : Done) =>
      done.ok = true ∧ after.sessions.get sessionId = none
  | sessionHeartbeat sessionId, (beaten : Beaten) =>
      beaten = ⟨true, heartbeatIntervalSec⟩ ∧
        ∃ session, before.sessions.get sessionId = some session ∧
          after.sessions.get sessionId = some { session with lastHeartbeat := env.now }
  | sessionList, (sessions : List Session) => sessions.Perm before.sessions.values
  | sessionGet sessionId, (session : Session) => before.sessions.get sessionId = some session
  | reservationClaim sessionId path mode ttlSec, (claimed : Claimed) =>
      claimed.conflicts.Perm (before.reservations.values.filter
          (blocksClaim env.now sessionId path mode)) ∧
        ∃ expires, expiry env.now ttlSec = .ok expires ∧
          after.reservations.get claimed.reservationId = some {
            reservationId := claimed.reservationId, sessionId, path, mode, acquiredAt := env.now,
            expiresAt := expires }
  | reservationRelease reservationId, (done : Done) =>
      done.ok = true ∧ before.reservations.containsKey reservationId = true ∧
        after.reservations.get reservationId = none
  | reservationList path, (reservations : List Reservation) =>
      reservations.Perm (before.reservations.values.filter fun reservation =>
        decide (env.now < reservation.expiresAt) &&
          path.all fun front => startsWith reservation.path.inner front.inner)
  | inboxPost fromSession toSession subject body priority, (posted : Posted) =>
      after.inbox.get toSession = some ((before.inbox.get toSession).getD [] ++ [{
        messageId := posted.messageId, fromSession, toSession, subject, body, priority,
        ts := env.now, read := false }])
  | inboxList sessionId unreadOnly limit, (messages : List InboxMessage) =>
      let inbox := (before.inbox.get sessionId).getD []
      let listed := resultIds unreadOnly limit inbox
      after.inbox.get sessionId = some (markRead listed inbox) ∧
        messages = (markRead listed inbox).filter fun message => message.messageId ∈ listed
  | inboxRead messageId, (message : InboxMessage) =>
      message.messageId = messageId ∧ message.read = true ∧
        ∃ owner inbox, before.inbox.get owner = some inbox ∧
          ∃ stored ∈ inbox, message = { stored with read := true } ∧
            ∃ marked, readFirst messageId inbox = some (message, marked) ∧
              after.inbox.get owner = some marked
  | stateSet sessionId focusFile focusBranch worktree status, (done : Done) =>
      done.ok = true ∧ after.liveState.get sessionId = some {
        sessionId, focusFile, focusBranch, worktree, status, lastHeartbeat := env.now }
  | stateGet sessionId, (live : LiveState) => before.liveState.get sessionId = some live
  | discoverAgents path branch capabilities, (summaries : List SessionSummary) =>
      ∀ summary, summary ∈ summaries ↔ ∃ id session, before.sessions.get id = some session ∧
        discovered path branch capabilities session (before.liveState.get id) = true ∧
        summary = {
          sessionId := id
          agentType := session.agentType
          pid := session.pid
          status := ((before.liveState.get id).map LiveState.status).getD .idle
          focusFile := (before.liveState.get id).bind LiveState.focusFile
          lastHeartbeat := session.lastHeartbeat }

end Request

end TeamComm
