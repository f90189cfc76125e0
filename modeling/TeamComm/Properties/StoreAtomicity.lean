import TeamComm.Daemon.Store

/-!
# All or nothing

An operation of the store which reports an error has changed nothing, at whichever statement the
database failed: one statement stands alone, and several run in a transaction.  Only the marks of
messages are neither, so those before the failure stay unless they mark what is marked already.
-/

namespace TeamComm

open Transactions

variable {MessageType : Type}

/-- Work on the tables which is all-or-nothing is so on the database. -/
theorem allOrNothing_onDatabase {α : Type} {computation : Sql α}
    (single : Work.AllOrNothing computation) : Work.AllOrNothing (Sql.onDatabase computation) :=
  fun database => Work.AllOrNothingAt.zoom (fun _ => rfl) (single database.tables)

theorem allOrNothing_statement (statement : Tables → Except SqlError Tables) :
    Work.AllOrNothing (Sql.onDatabase (Work.execute statement)) :=
  allOrNothing_onDatabase (Work.AllOrNothing.execute statement)

theorem allOrNothing_transaction {α : Type} (body : Sql α) :
    Work.AllOrNothing (Sql.onDatabase (Work.transaction body)) :=
  allOrNothing_onDatabase (Work.AllOrNothing.transaction body)

/-- The version is read in front of the one transaction in which the migrations run. -/
theorem allOrNothing_applyMigrations : Work.AllOrNothing applyMigrations :=
  (Work.Keeps.query _).bind_allOrNothing fun _ => Work.AllOrNothing.transaction _

theorem allOrNothing_write [Rfc3339] [StatusText] (change : StoreWrite) :
    Work.AllOrNothing (Sql.onDatabase change.perform) := by
  cases change with
  | upsertSession session => exact allOrNothing_transaction _
  | deleteSession sessionId => exact allOrNothing_transaction _
  | upsertReservation reservation =>
      exact allOrNothing_statement (Tables.insertReservation _ (reservationRow reservation))
  | deleteReservation reservationId =>
      exact allOrNothing_statement (Tables.deleteReservation reservationId)
  | upsertLiveState live =>
      exact allOrNothing_statement (Tables.insertLiveState _ (liveStateRow live))

theorem allOrNothing_insertInboxMessage [MessageNames MessageType]
    (message : StoredMessage MessageType) : Work.AllOrNothing (insertInboxMessage message) :=
  Work.AllOrNothing.execute _

/-- A mark changes nothing exactly where no unread message is named. -/
theorem withInbox_setRead_eq_self {database : Database} {id : String} :
    database.withInbox (setRead id) = database ↔
      ∀ row, database.inboxMessages.get id = some row → row.read = 1 := by
  have part : database.withInbox (setRead id) = database ↔
      setRead id database.inboxMessages = database.inboxMessages :=
    ⟨fun same => congrArg Database.inboxMessages same, fun same => by
      rw [Database.withInbox, same]⟩
  rw [part, setRead, HashMap.modify_eq_self]
  refine forall₂_congr fun row _ => ⟨fun same => (congrArg InboxRow.read same).symm, fun read => ?_⟩
  rw [← read]

/-- Marks are all-or-nothing exactly where those in front of the last change nothing. -/
theorem allOrNothingAt_markInboxRead {database : Database} {ids : List String} :
    Work.AllOrNothingAt database (markInboxRead ids) ↔ ∀ id ∈ ids.dropLast, ∀ row,
      database.inboxMessages.get id = some row → row.read = 1 := by
  simp only [← withInbox_setRead_eq_self]
  unfold markInboxRead
  split
  next nothing =>
    rw [List.isEmpty_iff.mp nothing]
    exact iff_of_true (Work.AllOrNothing.pure _ _) (fun _ member => absurd member List.not_mem_nil)
  next => rw [Work.allOrNothingAt_tick_bind, Work.allOrNothingAt_each]

/-- An operation is all-or-nothing unless it marks an unread message and then another. -/
theorem allOrNothingAt_perform_iff [Rfc3339] [StatusText] [MessageNames MessageType]
    (operation : StoreOperation MessageType) (database : Database) :
    Work.AllOrNothingAt database operation.perform ↔
      ∀ ids, operation = .markInboxRead ids → ∀ id ∈ ids.dropLast, ∀ row,
        database.inboxMessages.get id = some row → row.read = 1 := by
  cases operation with
  | applyMigrations => exact iff_of_true (allOrNothing_applyMigrations _) (by simp)
  | write change => exact iff_of_true (allOrNothing_write change _) (by simp)
  | insertInboxMessage message =>
      exact iff_of_true (allOrNothing_insertInboxMessage message _) (by simp)
  | markInboxRead ids =>
      simp only [StoreOperation.markInboxRead.injEq, forall_eq']
      exact allOrNothingAt_markInboxRead
  | upsertThread thread =>
      exact iff_of_true (allOrNothing_statement (Tables.upsertThread _ (threadRow thread)) _)
        (by simp)
  | deleteThread threadId => exact iff_of_true (allOrNothing_transaction _ _) (by simp)
  | addThreadParticipant threadId sessionId now =>
      exact iff_of_true (allOrNothing_statement
        (Tables.insertThreadParticipant threadId sessionId now.toRfc3339) _) (by simp)
  | removeThreadParticipant threadId sessionId =>
      exact iff_of_true
        (allOrNothing_statement (Tables.deleteThreadParticipant threadId sessionId) _) (by simp)

/-! ## Two unread messages -/

/-- An unread message. -/
def unreadRow : InboxRow where
  fromSession := "sess_a"
  toSession := "sess_b"
  subject := ""
  body := ""
  priority := "normal"
  messageType := "question"
  threadId := none
  references := none
  ts := "2026-01-01T00:00:00+00:00"
  read := 0

def twoUnread : Database :=
  { Database.empty with
    inboxMessages := HashMap.insert (HashMap.insert ∅ "msg_b" unreadRow) "msg_a" unreadRow }

/-- The database fails at the second of two marks. -/
theorem not_allOrNothingAt_twoUnread :
    ¬Work.AllOrNothingAt twoUnread (markInboxRead ["msg_a", "msg_b"]) := by
  intro single
  have unchanged := single (some 2) .failed
    ⟨twoUnread.withInbox (setRead "msg_a"), none⟩ rfl
  have marked := congrArg (fun database : Database =>
    (database.inboxMessages.get "msg_a").map InboxRow.read) unchanged
  revert marked
  decide

end TeamComm
