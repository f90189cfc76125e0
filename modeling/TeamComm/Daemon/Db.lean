import TeamComm.Daemon.DbRows
import TeamComm.Library.Mealy
import TeamComm.Library.Table
import TeamComm.Library.Transactions

/-!
# SQLite-backed store

The durable mirror of the daemon's maps: its tables with their foreign keys, the statements which
the store executes, and the operations it offers.  A statement fails on a foreign key, or because
the database fails to execute it; an operation of several statements runs them in one transaction.
-/

namespace TeamComm

open Transactions

/-! ## Tables -/

/-- The tables, each keyed by its primary key. -/
structure Tables where
  /-- `sessions`, by session id. -/
  sessions : HashMap String SessionRow
  /-- `sessions_by_pid`: the session id of each pid. -/
  sessionsByPid : HashMap Int64 String
  /-- `reservations`, by reservation id. -/
  reservations : HashMap String ReservationRow
  /-- `live_state`, by session id. -/
  liveState : HashMap String LiveStateRow
  /-- `threads`, by thread id. -/
  threads : HashMap String ThreadRow
  /-- `thread_participants`: when a session joined a thread. -/
  threadParticipants : HashMap (String × String) String

namespace Tables

/-- The tables right after the migrations of a new database. -/
def fresh : Tables where
  sessions := ∅
  sessionsByPid := ∅
  reservations := ∅
  liveState := ∅
  threads := ∅
  threadParticipants := ∅

/-- `REFERENCES sessions(session_id)`: fail unless the session is there. -/
def referencesSession (tables : Tables) (sessionId : String) (after : Tables) :
    Except SqlError Tables :=
  if tables.sessions.containsKey sessionId then .ok after else .error .constraintViolation

def insertSession (sessionId : String) (row : SessionRow) (tables : Tables) :
    Except SqlError Tables :=
  .ok { tables with sessions := tables.sessions.insert sessionId row }

def insertSessionByPid (pid : Int64) (sessionId : String) (tables : Tables) :
    Except SqlError Tables :=
  tables.referencesSession sessionId
    { tables with sessionsByPid := tables.sessionsByPid.insert pid sessionId }

def insertReservation (reservationId : String) (row : ReservationRow) (tables : Tables) :
    Except SqlError Tables :=
  tables.referencesSession row.sessionId
    { tables with reservations := tables.reservations.insert reservationId row }

def insertLiveState (sessionId : String) (row : LiveStateRow) (tables : Tables) :
    Except SqlError Tables :=
  tables.referencesSession sessionId
    { tables with liveState := tables.liveState.insert sessionId row }

/-- What `ON DELETE CASCADE` leaves when a session is deleted. -/
def cascadeSession (sessionId : String) (tables : Tables) : Tables where
  sessions := tables.sessions.remove sessionId
  sessionsByPid := tables.sessionsByPid.retain fun _ owner => owner ≠ sessionId
  reservations := tables.reservations.retain fun _ row => row.sessionId ≠ sessionId
  liveState := tables.liveState.retain fun owner _ => owner ≠ sessionId
  threads := tables.threads.retain fun _ row => row.createdBy ≠ sessionId
  -- A thread which leaves takes its participants along.
  threadParticipants := tables.threadParticipants.retain fun (threadId, participant) _ =>
    participant ≠ sessionId ∧
      ((tables.threads.get threadId).map ThreadRow.createdBy) ≠ some sessionId

/-- Cascades start at the rows which a statement deletes, so there are none without a session. -/
def deleteSession (sessionId : String) (tables : Tables) : Except SqlError Tables :=
  .ok (if tables.sessions.containsKey sessionId then tables.cascadeSession sessionId else tables)

def deleteSessionByPid (pid : Int64) (tables : Tables) : Except SqlError Tables :=
  .ok { tables with sessionsByPid := tables.sessionsByPid.remove pid }

def deleteReservation (reservationId : String) (tables : Tables) : Except SqlError Tables :=
  .ok { tables with reservations := tables.reservations.remove reservationId }

end Tables

/-! ## Statements and transactions -/

instance : DatabaseError SqlError := ⟨.failed⟩

/-- A computation on the tables. -/
abbrev Sql := Work SqlError Tables

/-- What a question about the tables is answered. -/
def Tables.ask {α : Type} (tables : Tables) (question : Sql α) : Except SqlError α :=
  (question.exec ⟨tables, none⟩).1

theorem Tables.ask_query {α : Type} (statement : Tables → Except SqlError α) (tables : Tables) :
    tables.ask (Work.query statement) = statement tables := by
  rw [ask, Work.exec_query_none]

/-! ## Operations -/

section Operations

variable [Rfc3339]

def upsertSession (session : Session) : Sql PUnit := Work.transaction do
  Work.execute (Tables.insertSession session.sessionId (sessionRow session))
  Work.execute (Tables.insertSessionByPid (pidColumn session.pid) session.sessionId)

def deleteSession (sessionId : String) : Sql PUnit := Work.transaction do
  -- The pid is looked up to keep `sessions_by_pid` consistent.
  let pid ← Work.query fun tables => .ok ((tables.sessions.get sessionId).map SessionRow.pid)
  Work.execute (Tables.deleteSession sessionId)
  match pid with
  | some pid => Work.execute (Tables.deleteSessionByPid pid)
  | none => pure ⟨⟩

def getSession (sessionId : String) : Sql (Option Session) :=
  Work.query fun tables => Table.read rowToSession tables.sessions sessionId

/-- The session which `sessions_by_pid` joins to a pid. -/
def getSessionByPid (pid : UInt32) : Sql (Option Session) :=
  Work.query fun tables =>
    match tables.sessionsByPid.get (pidColumn pid) with
    | some sessionId => Table.read rowToSession tables.sessions sessionId
    | none => .ok none

def upsertReservation (reservation : Reservation) : Sql PUnit :=
  Work.execute (Tables.insertReservation reservation.reservationId (reservationRow reservation))

def deleteReservation (reservationId : String) : Sql PUnit :=
  Work.execute (Tables.deleteReservation reservationId)

variable [StatusText]

def upsertLiveState (live : LiveState) : Sql PUnit :=
  Work.execute (Tables.insertLiveState live.sessionId (liveStateRow live))

def getLiveState (sessionId : String) : Sql (Option LiveState) :=
  Work.query fun tables => Table.read rowToLiveState tables.liveState sessionId

/-! ## Runs of the store -/

/-- An operation which writes to the tables of sessions, reservations and live state. -/
inductive StoreWrite
  | upsertSession (session : Session)
  | deleteSession (sessionId : String)
  | upsertReservation (reservation : Reservation)
  | deleteReservation (reservationId : String)
  | upsertLiveState (live : LiveState)

def StoreWrite.perform : StoreWrite → Sql PUnit
  | .upsertSession session => TeamComm.upsertSession session
  | .deleteSession sessionId => TeamComm.deleteSession sessionId
  | .upsertReservation reservation => TeamComm.upsertReservation reservation
  | .deleteReservation reservationId => TeamComm.deleteReservation reservationId
  | .upsertLiveState live => TeamComm.upsertLiveState live

/-- The store on a database which never fails by itself. -/
def sqliteStore : Mealy Tables StoreWrite (Except SqlError PUnit) where
  step tables write :=
    let (result, after) := write.perform.exec ⟨tables, none⟩
    (result, after.content)

end Operations

/-! ## What an operation does -/

/-- A deleted session takes its pid entry along, and everything which refers to it. -/
theorem exec_deleteSession (sessionId : String) (tables : Tables) :
    (deleteSession sessionId).exec ⟨tables, none⟩ =
      match tables.sessions.get sessionId with
      | none => (.ok ⟨⟩, ⟨tables, none⟩)
      | some row => (.ok ⟨⟩, ⟨{ tables.cascadeSession sessionId with
          sessionsByPid := (tables.cascadeSession sessionId).sessionsByPid.remove row.pid },
          none⟩) := by
  cases found : tables.sessions.get sessionId with
  | none =>
      apply Work.exec_transaction_none
      have absent : ¬tables.sessions.containsKey sessionId = true := by
        simp [HashMap.containsKey, found]
      rw [Work.exec_bind, Work.exec_query_none, found]
      simp only [Option.map_none]
      rw [Work.exec_bind, Work.exec_execute_none]
      simp only [Tables.deleteSession, if_neg absent, Work.exec_pure]
  | some row =>
      apply Work.exec_transaction_none
      have present : tables.sessions.containsKey sessionId = true :=
        HashMap.containsKey_iff.mpr ⟨row, found⟩
      rw [Work.exec_bind, Work.exec_query_none, found]
      simp only [Option.map_some]
      rw [Work.exec_bind, Work.exec_execute_none]
      simp only [Tables.deleteSession, if_pos present]
      rw [Work.exec_execute_none]
      rfl

theorem exec_upsertSession [Rfc3339] (session : Session) (tables : Tables) :
    (upsertSession session).exec ⟨tables, none⟩ =
      (.ok ⟨⟩, ⟨{ tables with
        sessions := tables.sessions.insert session.sessionId (sessionRow session)
        sessionsByPid :=
          tables.sessionsByPid.insert (pidColumn session.pid) session.sessionId }, none⟩) := by
  apply Work.exec_transaction_none
  rw [Work.exec_bind, Work.exec_execute_none]
  simp only [Tables.insertSession]
  rw [Work.exec_execute_none]
  have present : (tables.sessions.insert session.sessionId (sessionRow session)).containsKey
      session.sessionId = true :=
    (HashMap.containsKey_insert _ _ _ _).mpr (Or.inl rfl)
  simp only [Tables.insertSessionByPid, Tables.referencesSession, present, if_true]

section Steps

variable [Rfc3339] [StatusText] {tables after : Tables}

private theorem store_step {write : StoreWrite} {result : Except SqlError PUnit}
    (done : write.perform.exec ⟨tables, none⟩ = (result, ⟨after, none⟩)) :
    sqliteStore.step tables write = (result, after) := by
  simp only [sqliteStore, done]

theorem step_upsertSession (session : Session) (tables : Tables) :
    sqliteStore.step tables (.upsertSession session) = (.ok ⟨⟩, { tables with
      sessions := tables.sessions.insert session.sessionId (sessionRow session)
      sessionsByPid := tables.sessionsByPid.insert (pidColumn session.pid) session.sessionId }) :=
  store_step (exec_upsertSession session tables)

theorem step_deleteSession_missing {sessionId : String}
    (missing : tables.sessions.get sessionId = none) :
    sqliteStore.step tables (.deleteSession sessionId) = (.ok ⟨⟩, tables) := by
  apply store_step
  rw [StoreWrite.perform, exec_deleteSession, missing]

theorem step_deleteSession {sessionId : String} {row : SessionRow}
    (stored : tables.sessions.get sessionId = some row) :
    sqliteStore.step tables (.deleteSession sessionId) = (.ok ⟨⟩, {
      tables.cascadeSession sessionId with
      sessionsByPid := (tables.cascadeSession sessionId).sessionsByPid.remove row.pid }) := by
  apply store_step
  rw [StoreWrite.perform, exec_deleteSession, stored]

/-- A row which refers to a session is written as long as the session is there. -/
private theorem step_referencing {write : StoreWrite} {sessionId : String}
    {change : Tables → Tables}
    (performs : write.perform =
      Work.execute fun tables => tables.referencesSession sessionId (change tables))
    (tables : Tables) : sqliteStore.step tables write =
      if tables.sessions.containsKey sessionId then (.ok ⟨⟩, change tables)
      else (.error .constraintViolation, tables) := by
  split
  next present =>
    apply store_step
    rw [performs, Work.exec_execute_none, Tables.referencesSession, if_pos present]
  next absent =>
    apply store_step
    rw [performs, Work.exec_execute_none, Tables.referencesSession, if_neg absent]

theorem step_upsertReservation (reservation : Reservation) (tables : Tables) :
    sqliteStore.step tables (.upsertReservation reservation) =
      if tables.sessions.containsKey reservation.sessionId then
        (.ok ⟨⟩, { tables with
          reservations :=
            tables.reservations.insert reservation.reservationId (reservationRow reservation) })
      else (.error .constraintViolation, tables) := by
  have performs : (StoreWrite.upsertReservation reservation).perform = Work.execute fun tables =>
      tables.referencesSession reservation.sessionId { tables with
        reservations :=
          tables.reservations.insert reservation.reservationId (reservationRow reservation) } := rfl
  exact step_referencing performs tables

theorem step_upsertLiveState (live : LiveState) (tables : Tables) :
    sqliteStore.step tables (.upsertLiveState live) =
      if tables.sessions.containsKey live.sessionId then
        (.ok ⟨⟩, { tables with
          liveState := tables.liveState.insert live.sessionId (liveStateRow live) })
      else (.error .constraintViolation, tables) := by
  have performs : (StoreWrite.upsertLiveState live).perform = Work.execute fun tables =>
      tables.referencesSession live.sessionId { tables with
        liveState := tables.liveState.insert live.sessionId (liveStateRow live) } := rfl
  exact step_referencing performs tables

theorem step_deleteReservation (reservationId : String) (tables : Tables) :
    sqliteStore.step tables (.deleteReservation reservationId) =
      (.ok ⟨⟩, { tables with reservations := tables.reservations.remove reservationId }) :=
  store_step (Work.exec_execute_none tables (Tables.deleteReservation reservationId))

end Steps

end TeamComm
