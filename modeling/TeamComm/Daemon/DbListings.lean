import TeamComm.Daemon.Db
import TeamComm.Library.TextOrder
import TeamComm.Timestamps

/-!
# Listings of the store

What the store reads from more than one row: all reservations, the messages to a session, the
threads and the participants of one.  A scan visits the rows of a table in any order, `ORDER BY`
sorts them by the bytes of a text column, and a row which does not decode fails the listing.
-/

namespace TeamComm

open Transactions

/-! ## Rows and what they hold -/

/-- A row of `inbox_messages` without its key. -/
structure InboxRow where
  fromSession : String
  toSession : String
  subject : String
  body : String
  priority : String
  messageType : String
  threadId : Option String
  references : Option String
  ts : String
  read : Int64

/-- `InboxMessage` as the store reads it. -/
structure StoredMessage (MessageType : Type) where
  messageId : String
  fromSession : String
  toSession : String
  subject : String
  body : String
  priority : Priority
  messageType : MessageType
  threadId : Option String
  references : Option (List String)
  ts : Timestamp
  read : Bool

inductive ThreadStatus
  | active
  | archived
  deriving DecidableEq

namespace ThreadStatus

def asStr : ThreadStatus → String
  | .active => "active"
  | .archived => "archived"

def parse (text : String) : Option ThreadStatus :=
  match toAsciiLowercase text with
  | "active" => some .active
  | "archived" => some .archived
  | _ => none

theorem parse_asStr (status : ThreadStatus) : parse status.asStr = some status := by
  cases status <;> decide

end ThreadStatus

/-- `Thread`. -/
structure Thread where
  threadId : String
  title : String
  topic : Option String
  createdBy : String
  createdAt : Timestamp
  status : ThreadStatus

/-- How the columns of a message are read whose readers are not at hand. -/
class MessageText (MessageType : Type) where
  /-- `Priority::parse`. -/
  parsePriority : String → Option Priority
  /-- `MessageType::parse`. -/
  parseMessageType : String → Option MessageType

/-- How `chrono` reads a timestamp, leap seconds included. -/
class TimestampText where
  /-- `DateTime::parse_from_rfc3339`, taken to UTC, or the text of its error. -/
  parseFromRfc3339 : String → Except String Timestamp

section Decoding

variable [TimestampText]

/-- Read a timestamp column. -/
def parseTimestamp (text context : String) : Except SqlError Timestamp :=
  match TimestampText.parseFromRfc3339 text with
  | .ok stamp => .ok stamp
  | .error error => .error (.decode s!"{context}: {error}")

/-- Read the column of the referenced messages, which may be empty. -/
def parseReferences : Option String → Except SqlError (Option (List String))
  | none => .ok none
  | some text => (okOr (tagsFromStr text) (.json 8)).map some

def rowToInbox {MessageType : Type} [MessageText MessageType] (messageId : String)
    (row : InboxRow) : Except SqlError (StoredMessage MessageType) := do
  let priority ← okOr (MessageText.parsePriority MessageType row.priority)
    (.decode s!"inbox.priority: unknown variant {row.priority}")
  let messageType ← okOr (MessageText.parseMessageType row.messageType)
    (.decode s!"inbox.message_type: unknown variant {row.messageType}")
  let references ← parseReferences row.references
  let ts ← parseTimestamp row.ts "inbox.ts"
  return {
    messageId
    fromSession := row.fromSession
    toSession := row.toSession
    subject := row.subject
    body := row.body
    priority
    messageType
    threadId := row.threadId
    references
    ts
    read := row.read ≠ 0 }

def rowToThread (threadId : String) (row : ThreadRow) : Except SqlError Thread := do
  let status ← okOr (ThreadStatus.parse row.status)
    (.decode s!"threads.status: unknown variant {row.status}")
  let createdAt ← parseTimestamp row.createdAt "threads.created_at"
  return {
    threadId
    title := row.title
    topic := row.topic
    createdBy := row.createdBy
    createdAt
    status }

end Decoding

/-! ## Listings -/

/-- `SELECT … WHERE … ORDER BY` a text column. -/
def selectOrdered {Key Row : Type} (order : IterOrder) (belongs : Key → Row → Bool)
    (column : Row → String) (table : HashMap Key Row) : List (Σ _ : Key, Row) :=
  TextOrder.orderBy (fun entry => column entry.2)
    ((order.arrange table.entries).filter fun entry => belongs entry.1 entry.2)

theorem mem_selectOrdered {Key Row : Type} [DecidableEq Key] {order : IterOrder}
    {belongs : Key → Row → Bool} {column : Row → String} {table : HashMap Key Row} {key : Key}
    {row : Row} : (⟨key, row⟩ : Σ _ : Key, Row) ∈ selectOrdered order belongs column table ↔
      table.get key = some row ∧ belongs key row = true := by
  unfold selectOrdered
  rw [(TextOrder.orderBy_perm _ _).mem_iff, List.mem_filter, IterOrder.mem_arrange,
    HashMap.mem_entries]

def listReservations [Rfc3339] (order : IterOrder) : Sql (List Reservation) :=
  Work.query fun tables =>
    (order.arrange tables.reservations.entries).mapM fun entry => rowToReservation entry.1 entry.2

/-- The rows which `list_inbox` returns. -/
def sentTo (sessionId : String) (_ : String) (row : InboxRow) : Bool := row.toSession = sessionId

/-- The listing reads one table only, which is `inbox_messages`. -/
def listInbox {MessageType : Type} [MessageText MessageType] [TimestampText] (order : IterOrder)
    (sessionId : String) (messages : HashMap String InboxRow) :
    Except SqlError (List (StoredMessage MessageType)) :=
  (selectOrdered order (sentTo sessionId) InboxRow.ts messages).mapM fun entry =>
    rowToInbox entry.1 entry.2

/-- The rows which `list_threads` returns. -/
def isListed (includeArchived : Bool) (_ : String) (row : ThreadRow) : Bool :=
  includeArchived || row.status = "active"

def listThreads [TimestampText] (order : IterOrder) (includeArchived : Bool) : Sql (List Thread) :=
  Work.query fun tables =>
    (selectOrdered order (isListed includeArchived) ThreadRow.createdAt tables.threads).mapM
      fun entry => rowToThread entry.1 entry.2

/-- The rows which `list_thread_participants` returns. -/
def takesPart (threadId : String) (key : String × String) (_ : String) : Bool := key.1 = threadId

def listThreadParticipants (order : IterOrder) (threadId : String) : Sql (List String) :=
  Work.query fun tables =>
    .ok ((selectOrdered order (takesPart threadId) id tables.threadParticipants).map
      fun entry => entry.1.2)

end TeamComm
