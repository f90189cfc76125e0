import TeamComm.Daemon.DbMessages

/-!
# The whole store

The database of the store: the version of its schema, the names of its tables and indexes, and the
rows of the tables.  Migrations bring a schema to the version of the daemon, and every operation
which writes runs on a database which may fail at any of its statements.
-/

namespace TeamComm

open Transactions

/-- What the file of the store holds. -/
structure Database where
  /-- `PRAGMA user_version`. -/
  userVersion : Int
  /-- The names of the tables and indexes. -/
  objects : List String
  /-- The rows of all tables but one. -/
  tables : Tables
  /-- `inbox_messages`, by message id. -/
  inboxMessages : HashMap String InboxRow

/-- A new file. -/
def Database.empty : Database := ⟨0, [], .fresh, ∅⟩

/-- A computation on the database. -/
abbrev StoreWork := Work SqlError Database

/-! ## Statements on the tables -/

namespace Sql

variable {α : Type}

/-- The tables are a part of the database. -/
def onDatabase (computation : Sql α) : StoreWork α :=
  Work.zoom Database.tables (fun tables database => { database with tables }) computation

theorem onDatabase_of_ok {computation : Sql α} {database : Database} {failsIn : Option Nat}
    {result : α} {after : Connection Database}
    (done : (onDatabase computation).exec ⟨database, failsIn⟩ = (.ok result, after)) :
    ∃ ending, computation.exec ⟨database.tables, failsIn⟩ = (.ok result, ending) ∧
      after.content.tables = ending.content := by
  rw [onDatabase, Work.exec_zoom] at done
  obtain ⟨answer, rfl⟩ := Prod.mk.inj done
  exact ⟨_, Prod.ext answer rfl, rfl⟩

/-- A statement which gets through does to the tables what it says. -/
theorem execute_of_ok {statement : Tables → Except SqlError Tables} {database : Database}
    {failsIn : Option Nat} {result : PUnit} {after : Connection Database}
    (done : (onDatabase (Work.execute statement)).exec ⟨database, failsIn⟩ = (.ok result, after)) :
    statement database.tables = .ok after.content.tables := by
  obtain ⟨ending, executed, same⟩ := onDatabase_of_ok done
  rw [Work.execute_of_ok executed, same]

/-- A transaction on the tables which is committed does what its body does. -/
theorem transaction_of_ok {body : Sql α} {database : Database} {failsIn : Option Nat} {result : α}
    {after : Connection Database}
    (done : (onDatabase (Work.transaction body)).exec ⟨database, failsIn⟩ = (.ok result, after)) :
    ∃ begun ending, body.exec ⟨database.tables, begun⟩ = (.ok result, ending) ∧
      after.content.tables = ending.content := by
  obtain ⟨whole, executed, same⟩ := onDatabase_of_ok done
  obtain ⟨begun, ending, body_done, rest⟩ := Work.transaction_of_ok executed
  exact ⟨begun, ending, body_done, same.trans rest⟩

end Sql

/-! ## Migrations -/

/-- Create what has no table or index of its name yet. -/
def Database.withObject (name : String) (database : Database) : Database :=
  { database with
    objects := if name ∈ database.objects then database.objects else database.objects ++ [name] }

/-- `CREATE … IF NOT EXISTS`. -/
def createIfMissing (name : String) (database : Database) : Except SqlError Database :=
  .ok (database.withObject name)

/-- What `SCHEMA_V1` creates, in order.  That each of its statements prepares is taken for granted,
also where it names a column `references` without quotes. -/
def schemaV1 : List String :=
  ["sessions", "sessions_by_pid", "reservations", "idx_reservations_path",
    "idx_reservations_session", "live_state", "inbox_messages", "idx_inbox_to_session",
    "idx_inbox_thread_id", "idx_inbox_from_session", "threads", "idx_threads_status",
    "idx_threads_created_by", "thread_participants", "idx_participants_session"]

/-- `SCHEMA_VERSION`. -/
def schemaVersion : Int := 1

def setUserVersion (version : Int) (database : Database) : Except SqlError Database :=
  .ok { database with userVersion := version }

def applyMigrations : StoreWork PUnit := do
  let current ← Work.query fun database => .ok database.userVersion
  Work.transaction do
    if current < 1 then
      schemaV1.forM fun name => Work.execute (createIfMissing name)
    -- The version is set whether or not the schema was behind it.
    Work.execute (setUserVersion schemaVersion)

/-- The statements of each migration step. -/
abbrev Migrations := Nat → List (Database → Except SqlError Database)

/-- The steps up to a schema version which a stored version is below. -/
def pendingSteps (current target : Int) : List Nat :=
  (List.range' 1 target.toNat).filter fun step => current < step

/-- `apply_migrations` of a daemon with any schema version: the steps which it executes. -/
def migrateTo (migrations : Migrations) (target : Int) : StoreWork (List Nat) := do
  let current ← Work.query fun database => .ok database.userVersion
  Work.transaction do
    (pendingSteps current target).forM fun step => (migrations step).forM Work.execute
    Work.execute (setUserVersion target)
    return pendingSteps current target

/-- `Store::from_connection`. -/
def openStore (migrations : Migrations) (target : Int) : StoreWork (List Nat) := do
  -- `journal_mode`, `foreign_keys` and `synchronous`.
  Work.tick
  Work.tick
  Work.tick
  migrateTo migrations target

/-- The migrations which the store has. -/
def storeMigrations : Migrations := fun _ => schemaV1.map createIfMissing

/-- The store right after it is opened on a new file. -/
def Database.fresh : Database := ⟨schemaVersion, schemaV1, .fresh, ∅⟩

/-- The store applies its migrations as a daemon of its schema version does. -/
theorem exec_applyMigrations (database : Database) (failsIn : Option Nat) :
    applyMigrations.exec ⟨database, failsIn⟩ =
      (((migrateTo storeMigrations schemaVersion).exec ⟨database, failsIn⟩).1.map fun _ => ⟨⟩,
        ((migrateTo storeMigrations schemaVersion).exec ⟨database, failsIn⟩).2) := by
  unfold applyMigrations migrateTo
  rw [Work.exec_bind, Work.exec_bind, Work.exec_query]
  rcases spend failsIn with _ | rest
  · rfl
  · dsimp only
    rw [← Work.exec_transaction_map]
    congr 2
    have steps : pendingSteps database.userVersion schemaVersion =
        if database.userVersion < 1 then [1] else [] := by
      change (List.range' 1 1).filter _ = _
      rw [List.range'_one]
      split
      next behind => simp [behind]
      next ahead => simp [ahead]
    rw [steps]
    by_cases behind : database.userVersion < 1
    · simp [behind, storeMigrations]
    · simp [behind]

/-! ## Operations which write -/

/-- Change the messages. -/
def Database.withInbox (change : HashMap String InboxRow → HashMap String InboxRow)
    (database : Database) : Database :=
  { database with inboxMessages := change database.inboxMessages }

section Inbox

variable {MessageType : Type}

def insertInboxMessage [MessageNames MessageType] (message : StoredMessage MessageType) :
    StoreWork PUnit :=
  Work.execute fun database =>
    .ok (database.withInbox (upsertInboxRow message.messageId (inboxRow message)))

def getInboxMessage [MessageText MessageType] [TimestampText] (id : String) :
    StoreWork (Option (StoredMessage MessageType)) :=
  Work.query fun database => Table.read rowToInbox database.inboxMessages id

def markInboxRead (ids : List String) : StoreWork PUnit :=
  if ids.isEmpty then pure ⟨⟩
  else do
    -- The statement is prepared once, and every execution of it commits on its own.
    Work.tick
    Work.each (fun id => Database.withInbox (setRead id)) ids

end Inbox

/-- An operation which writes to the database. -/
inductive StoreOperation (MessageType : Type)
  | applyMigrations
  | write (change : StoreWrite)
  | insertInboxMessage (message : StoredMessage MessageType)
  | markInboxRead (ids : List String)
  | upsertThread (thread : Thread)
  | deleteThread (threadId : String)
  | addThreadParticipant (threadId sessionId : String) (now : Timestamp)
  | removeThreadParticipant (threadId sessionId : String)

/-- An operation, and the statement at which the database fails during it, if it does. -/
structure StoreCall (MessageType : Type) where
  operation : StoreOperation MessageType
  failsIn : Option Nat

section Machine

variable {MessageType : Type} [Rfc3339] [StatusText] [MessageNames MessageType]

def StoreOperation.perform : StoreOperation MessageType → StoreWork PUnit
  | .applyMigrations => TeamComm.applyMigrations
  | .write change => Sql.onDatabase change.perform
  | .insertInboxMessage message => TeamComm.insertInboxMessage message
  | .markInboxRead ids => TeamComm.markInboxRead ids
  | .upsertThread thread => Sql.onDatabase (TeamComm.upsertThread thread)
  | .deleteThread threadId => Sql.onDatabase (TeamComm.deleteThread threadId)
  | .addThreadParticipant threadId sessionId now =>
      Sql.onDatabase (TeamComm.addThreadParticipant threadId sessionId now)
  | .removeThreadParticipant threadId sessionId =>
      Sql.onDatabase (TeamComm.removeThreadParticipant threadId sessionId)

/-- The store on a database which may fail at any statement. -/
def sqlStore (MessageType : Type) [MessageNames MessageType] :
    Mealy Database (StoreCall MessageType) (Except SqlError PUnit) where
  step database call :=
    let (result, after) := call.operation.perform.exec ⟨database, call.failsIn⟩
    (result, after.content)

end Machine

/-! ## What an operation leaves alone -/

/-- Work on the tables leaves alone what is no part of them. -/
theorem keeps_onDatabase {α View : Type} {view : Database → View}
    (other : ∀ database tables, view { database with tables } = view database)
    (computation : Sql α) : Work.Keeps view (Sql.onDatabase computation) :=
  fun database _ => other database _

/-- Migrations leave alone what is neither the version nor the names. -/
theorem keeps_applyMigrations {View : Type} {view : Database → View}
    (other : ∀ database version objects,
      view { database with userVersion := version, objects } = view database) :
    Work.Keeps view applyMigrations := by
  have versioned (database : Database) : view { database with userVersion := schemaVersion } =
      view database := other database schemaVersion database.objects
  have created (name : String) (database left : Database)
      (done : createIfMissing name database = .ok left) : view left = view database := by
    obtain rfl := Except.ok.inj done
    exact other database database.userVersion _
  have setting : Work.Keeps view (Work.execute (setUserVersion schemaVersion)) :=
    Work.Keeps.execute fun database left done => Except.ok.inj done ▸ versioned database
  refine Work.Keeps.bind (Work.Keeps.query _) fun current => Work.Keeps.transaction ?_
  split
  · exact (Work.Keeps.forM (fun name => Work.Keeps.execute (created name)) _).bind fun _ => setting
  · exact setting

section Inbox

variable {MessageType : Type} [MessageNames MessageType] {View : Type} {view : Database → View}

theorem keeps_insertInboxMessage
    (other : ∀ database change, view (Database.withInbox change database) = view database)
    (message : StoredMessage MessageType) : Work.Keeps view (insertInboxMessage message) :=
  Work.Keeps.execute fun database _ done => Except.ok.inj done ▸ other database _

omit [MessageNames MessageType] in
theorem keeps_markInboxRead
    (other : ∀ database change, view (Database.withInbox change database) = view database)
    (ids : List String) : Work.Keeps view (markInboxRead ids) := by
  unfold markInboxRead
  split
  · exact Work.Keeps.pure _
  · refine Work.Keeps.tick.bind fun _ => Work.Keeps.forM (fun id => ?_) _
    exact Work.Keeps.execute fun database _ done => Except.ok.inj done ▸ other database _

end Inbox

end TeamComm
