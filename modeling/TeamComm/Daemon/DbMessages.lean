import TeamComm.Daemon.DbListings

/-!
# Messages and threads of the store

The statements which write messages, threads and participants.  An insert which meets its own key
overwrites some columns only: the flag of a message, and all of a thread but its creator and its
time.  A participant refers to a thread and a session, and a thread to the session of its creator.
-/

namespace TeamComm

open Transactions

/-! ## Messages -/

/-- How the columns of a message are written whose texts are not at hand. -/
class MessageNames (MessageType : Type) where
  /-- `Priority::as_str`. -/
  priorityAsStr : Priority → String
  /-- `MessageType::as_str`. -/
  messageTypeAsStr : MessageType → String

/-- Priorities and message types under their names. -/
@[reducible] def MessageNames.plain : MessageNames String where
  priorityAsStr
    | .low => "low"
    | .normal => "normal"
    | .high => "high"
  messageTypeAsStr name := name

/-- Names are read as what they are. -/
@[reducible] def MessageText.plain : MessageText String where
  parsePriority
    | "low" => some .low
    | "normal" => some .normal
    | "high" => some .high
    | _ => none
  parseMessageType := some

/-- The row of a message. -/
def inboxRow {MessageType : Type} [MessageNames MessageType]
    (message : StoredMessage MessageType) : InboxRow where
  fromSession := message.fromSession
  toSession := message.toSession
  subject := message.subject
  body := message.body
  priority := MessageNames.priorityAsStr MessageType message.priority
  messageType := MessageNames.messageTypeAsStr message.messageType
  threadId := message.threadId
  references := message.references.map tagsToString
  ts := message.ts.toRfc3339
  read := if message.read then 1 else 0

/-- `ON CONFLICT`: only the flag is overwritten. -/
def upsertInboxRow (messageId : String) (row : InboxRow) (messages : HashMap String InboxRow) :
    HashMap String InboxRow :=
  if messages.containsKey messageId then
    messages.modify messageId fun stored => { stored with read := row.read }
  else messages.insert messageId row

/-- `UPDATE … SET read = 1`. -/
def setRead (messageId : String) (messages : HashMap String InboxRow) : HashMap String InboxRow :=
  messages.modify messageId fun stored => { stored with read := 1 }

/-! ## Threads -/

/-- Texts outside leap seconds are read as the instants of the store are. -/
@[reducible] def TimestampText.regular : TimestampText where
  parseFromRfc3339 text := (Rfc3339.utc.parseFromRfc3339 text).map DateTime.timestamp

/-- The row of a thread. -/
def threadRow (thread : Thread) : ThreadRow where
  title := thread.title
  topic := thread.topic
  createdBy := thread.createdBy
  createdAt := thread.createdAt.toRfc3339
  status := thread.status.asStr

namespace Tables

/-- `ON CONFLICT`: the creator and the time stay, so there is nothing to refer to. -/
def upsertThread (threadId : String) (row : ThreadRow) (tables : Tables) :
    Except SqlError Tables :=
  if tables.threads.containsKey threadId then
    .ok { tables with threads := tables.threads.modify threadId fun stored =>
      { stored with title := row.title, topic := row.topic, status := row.status } }
  else
    tables.referencesSession row.createdBy
      { tables with threads := tables.threads.insert threadId row }

/-- All participants of a thread leave. -/
def withoutParticipants (threadId : String) (tables : Tables) : Tables :=
  { tables with
    threadParticipants := tables.threadParticipants.retain fun key _ => key.1 ≠ threadId }

def deleteThreadParticipants (threadId : String) (tables : Tables) : Except SqlError Tables :=
  .ok (tables.withoutParticipants threadId)

/-- A thread which is there takes its participants along. -/
def deleteThread (threadId : String) (tables : Tables) : Except SqlError Tables :=
  .ok (if tables.threads.containsKey threadId then
    { tables.withoutParticipants threadId with threads := tables.threads.remove threadId }
  else tables)

/-- `INSERT OR IGNORE`: a row which is there stays, and is not checked again. -/
def insertThreadParticipant (threadId sessionId joinedAt : String) (tables : Tables) :
    Except SqlError Tables :=
  if tables.threadParticipants.containsKey (threadId, sessionId) then .ok tables
  else if tables.threads.containsKey threadId then
    tables.referencesSession sessionId { tables with
      threadParticipants := tables.threadParticipants.insert (threadId, sessionId) joinedAt }
  else .error .constraintViolation

def deleteThreadParticipant (threadId sessionId : String) (tables : Tables) :
    Except SqlError Tables :=
  .ok { tables with
    threadParticipants := tables.threadParticipants.remove (threadId, sessionId) }

end Tables

/-! ## Operations -/

def upsertThread (thread : Thread) : Sql PUnit :=
  Work.execute (Tables.upsertThread thread.threadId (threadRow thread))

def getThread [TimestampText] (threadId : String) : Sql (Option Thread) :=
  Work.query fun tables => Table.read rowToThread tables.threads threadId

theorem ask_getThread [TimestampText] (tables : Tables) (threadId : String) :
    tables.ask (getThread threadId) = Table.read rowToThread tables.threads threadId :=
  Tables.ask_query _ tables

def deleteThread (threadId : String) : Sql PUnit := Work.transaction do
  Work.execute (Tables.deleteThreadParticipants threadId)
  Work.execute (Tables.deleteThread threadId)

def addThreadParticipant (threadId sessionId : String) (now : Timestamp) : Sql PUnit :=
  Work.execute (Tables.insertThreadParticipant threadId sessionId now.toRfc3339)

def removeThreadParticipant (threadId sessionId : String) : Sql PUnit :=
  Work.execute (Tables.deleteThreadParticipant threadId sessionId)

end TeamComm
