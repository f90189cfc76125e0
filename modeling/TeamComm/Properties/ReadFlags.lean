import TeamComm.Daemon.Store

/-!
# Read flags

Marks only set the flag of a message, and a message which is inserted again brings its own flag
along.  So a message which was read stays read exactly as long as no unread copy of it is inserted,
and only a copy which is read may be inserted on either side of a mark.
-/

namespace TeamComm

open Transactions

variable {MessageType : Type}

/-! ## Flags of rows -/

section Rows

variable [MessageNames MessageType]

theorem read_inboxRow_ne_zero {message : StoredMessage MessageType} :
    (inboxRow message).read ≠ 0 ↔ message.read = true := by
  unfold inboxRow
  cases message.read <;> simp

omit [MessageNames MessageType] in
/-- Another flag leaves the rest of a message as it was. -/
theorem rowToInbox_withRead [MessageText MessageType] [TimestampText] (id : String)
    (row : InboxRow) (read : Int64) :
    rowToInbox id { row with read } = (rowToInbox id row).map
      fun message : StoredMessage MessageType => { message with read := read ≠ 0 } := by
  unfold rowToInbox
  dsimp only
  cases okOr (MessageText.parsePriority MessageType row.priority)
    (.decode s!"inbox.priority: unknown variant {row.priority}") with
  | error => rfl
  | ok priority =>
      cases okOr (MessageText.parseMessageType row.messageType : Option MessageType)
        (.decode s!"inbox.message_type: unknown variant {row.messageType}") with
      | error => rfl
      | ok messageType =>
          cases parseReferences row.references with
          | error => rfl
          | ok references => cases parseTimestamp row.ts "inbox.ts" <;> rfl

omit [MessageNames MessageType] in
theorem get_upsertInboxRow (messageId : String) (row : InboxRow)
    (messages : HashMap String InboxRow) (id : String) :
    (upsertInboxRow messageId row messages).get id =
      if id = messageId then some (match messages.get messageId with
        | some stored => { stored with read := row.read }
        | none => row)
      else messages.get id := by
  unfold upsertInboxRow HashMap.containsKey
  cases found : messages.get messageId with
  | none => exact HashMap.get_insert messages messageId row id
  | some stored =>
      rw [if_pos Option.isSome_some, HashMap.get_modify]
      split
      next same => rw [same, found, Option.map_some]
      next => rfl

theorem upserted_flag {before : Database} {message : StoredMessage MessageType} {row : InboxRow}
    (found : before.inboxMessages.get message.messageId = some row) :
    (before.withInbox (upsertInboxRow message.messageId (inboxRow message))).inboxMessages.get
      message.messageId = some { row with read := (inboxRow message).read } := by
  refine (get_upsertInboxRow _ _ _ _).trans ?_
  rw [if_pos rfl, found]

omit [MessageNames MessageType] in
/-- Marks set the flags of the messages which they name. -/
theorem get_foldl_setRead (ids : List String) (database : Database) (id : String) :
    (ids.foldl (fun database id => Database.withInbox (setRead id) database)
        database).inboxMessages.get id =
      if id ∈ ids then (database.inboxMessages.get id).map fun row => { row with read := 1 }
      else database.inboxMessages.get id := by
  induction ids generalizing database with
  | nil => rfl
  | cons first ids ih =>
      rw [List.foldl_cons, ih]
      have here : (Database.withInbox (setRead first) database).inboxMessages.get id =
          if id = first then (database.inboxMessages.get id).map fun row => { row with read := 1 }
          else database.inboxMessages.get id := HashMap.get_modify _ _ _ _
      rw [here]
      by_cases same : id = first <;> by_cases later : id ∈ ids <;>
        simp [same, later, Function.comp_def]

end Rows

/-! ## What a call does to the messages -/

section Steps

variable [Rfc3339] [StatusText] [MessageNames MessageType]

/-- An insert which gets through does what its statement does. -/
theorem step_insertInboxMessage {message : StoredMessage MessageType} {failsIn : Option Nat}
    (through : Work.LetsThrough failsIn 1) (before : Database) :
    ((sqlStore MessageType).step before ⟨.insertInboxMessage message, failsIn⟩).2 =
      before.withInbox (upsertInboxRow message.messageId (inboxRow message)) := by
  obtain ⟨rest, passed⟩ := Work.letsThrough_one.mp through
  change ((insertInboxMessage message).exec ⟨before, failsIn⟩).2.content = _
  rw [insertInboxMessage, Work.exec_execute, passed]

/-- What comes of the messages: they stay, one is inserted, or some are marked. -/
inductive InboxEffect (before : Database) (call : StoreCall MessageType) : Database → Prop
  | stays (after : Database) (same : after.inboxMessages = before.inboxMessages)
      (other : ∀ message, call.operation = .insertInboxMessage message →
        ¬Work.LetsThrough call.failsIn 1) : InboxEffect before call after
  | inserts (message : StoredMessage MessageType)
      (operation : call.operation = .insertInboxMessage message)
      (through : Work.LetsThrough call.failsIn 1) :
      InboxEffect before call
        (before.withInbox (upsertInboxRow message.messageId (inboxRow message)))
  | marks (ids front : List String) (operation : call.operation = .markInboxRead ids) :
      InboxEffect before call
        (front.foldl (fun database id => Database.withInbox (setRead id) database) before)

theorem inboxEffect (before : Database) (call : StoreCall MessageType) :
    InboxEffect before call ((sqlStore MessageType).step before call).2 := by
  obtain ⟨operation, failsIn⟩ := call
  have keeps {other : StoreOperation MessageType}
      (leaves : Work.Keeps Database.inboxMessages other.perform)
      (different : ∀ message, other ≠ .insertInboxMessage message) :
      InboxEffect before ⟨other, failsIn⟩ ((sqlStore MessageType).step before ⟨other, failsIn⟩).2 :=
    .stays _ (leaves before failsIn) fun message same => absurd same (different message)
  cases operation with
  | applyMigrations => exact keeps (keeps_applyMigrations fun _ _ _ => rfl) (by simp)
  | write change => exact keeps (keeps_onDatabase (fun _ _ => rfl) _) (by simp)
  | upsertThread thread => exact keeps (keeps_onDatabase (fun _ _ => rfl) _) (by simp)
  | deleteThread threadId => exact keeps (keeps_onDatabase (fun _ _ => rfl) _) (by simp)
  | addThreadParticipant threadId sessionId now =>
      exact keeps (keeps_onDatabase (fun _ _ => rfl) _) (by simp)
  | removeThreadParticipant threadId sessionId =>
      exact keeps (keeps_onDatabase (fun _ _ => rfl) _) (by simp)
  | insertInboxMessage message =>
      by_cases through : Work.LetsThrough failsIn 1
      · rw [step_insertInboxMessage through]
        exact .inserts message rfl through
      · have failed : spend failsIn = none := by
          by_contra passed
          exact through (Work.letsThrough_one.mpr (Option.ne_none_iff_exists'.mp passed))
        have step : ((insertInboxMessage message).exec ⟨before, failsIn⟩).2.content = before := by
          rw [insertInboxMessage, Work.exec_execute, failed]
        exact .stays _ (congrArg Database.inboxMessages step) fun _ _ => through
  | markInboxRead ids =>
      obtain ⟨front, reached⟩ : ∃ front : List String,
          ((markInboxRead ids).exec ⟨before, failsIn⟩).2.content =
            front.foldl (fun database id => Database.withInbox (setRead id) database) before := by
        unfold markInboxRead
        split
        · exact ⟨[], rfl⟩
        · rw [Work.exec_bind, Work.exec_tick]
          cases spend failsIn with
          | none => exact ⟨[], rfl⟩
          | some rest =>
              exact (Work.exists_front_each _ ids before rest).imp fun _ reached => reached.2
      have step : ((sqlStore MessageType).step before ⟨.markInboxRead ids, failsIn⟩).2 = _ :=
        reached
      rw [step]
      exact .marks ids front rfl

theorem step_markInboxRead (ids : List String) (before : Database) :
    ((sqlStore MessageType).step before ⟨.markInboxRead ids, none⟩).2 =
      ids.foldl (fun database id => Database.withInbox (setRead id) database) before := by
  change ((markInboxRead ids).exec ⟨before, none⟩).2.content = _
  unfold markInboxRead
  split
  next nothing => rw [List.isEmpty_iff.mp nothing]; rfl
  next =>
    rw [Work.exec_bind, Work.exec_tick, spend]
    dsimp only
    rw [Work.exec_each_none]

end Steps

/-! ## What is reported -/

section Reports

variable (MessageType) [MessageText MessageType] [TimestampText]

/-- `get_inbox_message` reports the message as read. -/
def ReportsRead (id : String) (database : Database) : Prop :=
  ∃ message : StoredMessage MessageType,
    ((getInboxMessage id).exec ⟨database, none⟩).1 = .ok (some message) ∧ message.read = true

/-- The flag which `get_inbox_message` reports. -/
def reportedFlag (id : String) (database : Database) : Option Bool :=
  ((getInboxMessage id : StoreWork (Option (StoredMessage MessageType))).exec
    ⟨database, none⟩).1.toOption.join.map StoredMessage.read

variable {MessageType} {id : String} {before after : Database}

theorem reportsRead_iff_flag :
    ReportsRead MessageType id before ↔ reportedFlag MessageType id before = some true := by
  unfold ReportsRead reportedFlag
  rcases ((getInboxMessage id : StoreWork (Option (StoredMessage MessageType))).exec
    ⟨before, none⟩).1 with error | _ | message <;> simp [Except.toOption]

theorem read_of_rowToInbox {row : InboxRow} {message : StoredMessage MessageType}
    (decoded : rowToInbox id row = .ok message) : message.read = true ↔ row.read ≠ 0 := by
  have same : rowToInbox id row = (rowToInbox id row).map
      fun message : StoredMessage MessageType => { message with read := row.read ≠ 0 } :=
    rowToInbox_withRead id row row.read
  rw [decoded] at same
  rw [congrArg StoredMessage.read (Except.ok.inj same), decide_eq_true_iff]

theorem reportsRead_iff : ReportsRead MessageType id before ↔
    ∃ row, before.inboxMessages.get id = some row ∧
      (∃ message : StoredMessage MessageType, rowToInbox id row = .ok message) ∧ row.read ≠ 0 := by
  have asked (message : StoredMessage MessageType) :
      ((getInboxMessage id).exec ⟨before, none⟩).1 = .ok (some message) ↔
        ∃ row, before.inboxMessages.get id = some row ∧ rowToInbox id row = .ok message := by
    rw [← Table.read_eq_some, getInboxMessage, Work.exec_query, spend]
  unfold ReportsRead
  simp only [asked]
  constructor
  · rintro ⟨message, ⟨row, found, decoded⟩, read⟩
    exact ⟨row, found, ⟨message, decoded⟩, (read_of_rowToInbox decoded).mp read⟩
  · rintro ⟨row, found, ⟨message, decoded⟩, read⟩
    exact ⟨message, ⟨row, found, decoded⟩, (read_of_rowToInbox decoded).mpr read⟩

/-- What is reported depends on the row of the message alone. -/
theorem ReportsRead.of_same (reported : ReportsRead MessageType id before)
    (same : after.inboxMessages.get id = before.inboxMessages.get id) :
    ReportsRead MessageType id after := by
  rw [reportsRead_iff, same]
  exact reportsRead_iff.mp reported

/-- A message which is reported as read is so from then on exactly if its new flag says so. -/
theorem ReportsRead.overwritten (reported : ReportsRead MessageType id before) {row : InboxRow}
    (found : before.inboxMessages.get id = some row) {read : Int64}
    (overwrites : after.inboxMessages.get id = some { row with read }) :
    ReportsRead MessageType id after ↔ read ≠ 0 := by
  obtain ⟨_, stored, ⟨message, decoded⟩, -⟩ := reportsRead_iff.mp reported
  obtain rfl := Option.some.inj (found.symm.trans stored)
  rw [reportsRead_iff, overwrites]
  constructor
  · rintro ⟨_, same, -, set⟩
    rwa [← Option.some.inj same] at set
  · intro set
    refine ⟨_, rfl, ⟨{ message with read := read ≠ 0 }, ?_⟩, set⟩
    rw [rowToInbox_withRead, decoded]
    rfl

variable [Rfc3339] [StatusText] [MessageNames MessageType]

/-- An unread copy of a message is inserted which is reported as read. -/
def Unmarks (database : Database) (call : StoreCall MessageType) : Prop :=
  ∃ message, call.operation = .insertInboxMessage message ∧ message.read = false ∧
    Work.LetsThrough call.failsIn 1 ∧ ReportsRead MessageType message.messageId database

/-- A call leaves every reported flag alone exactly when it inserts no unread copy. -/
theorem reportsRead_step (call : StoreCall MessageType) :
    (∀ id, ReportsRead MessageType id before →
        ReportsRead MessageType id ((sqlStore MessageType).step before call).2) ↔
      ¬Unmarks before call := by
  constructor
  · rintro stays ⟨message, operation, unread, through, reported⟩
    obtain ⟨_, failsIn⟩ := call
    obtain rfl := operation
    have still := stays _ reported
    obtain ⟨row, found, -⟩ := reportsRead_iff.mp reported
    rw [step_insertInboxMessage through] at still
    have flagged := (reported.overwritten found (upserted_flag found)).mp still
    rw [read_inboxRow_ne_zero, unread] at flagged
    cases flagged
  · intro marked id reported
    obtain ⟨row, found, -⟩ := reportsRead_iff.mp reported
    have effect := inboxEffect before call
    generalize ((sqlStore MessageType).step before call).2 = after at effect ⊢
    cases effect with
    | stays _ same => exact reported.of_same (congrArg (HashMap.get · id) same)
    | inserts message operation through =>
        by_cases same : id = message.messageId
        · subst same
          refine (reported.overwritten found (upserted_flag found)).mpr ?_
          rw [read_inboxRow_ne_zero, ← Bool.not_eq_false]
          exact fun unread => marked ⟨message, operation, unread, through, reported⟩
        · refine reported.of_same ?_
          exact (get_upsertInboxRow _ _ _ _).trans (if_neg same)
    | marks ids front =>
        have marks := get_foldl_setRead front before id
        split at marks
        · rw [found, Option.map_some] at marks
          exact (reported.overwritten found marks).mpr (by decide)
        · exact reported.of_same marks

end Reports

/-! ## Inserts and marks -/

/-- The flag of each message which is stored. -/
def readFlags (database : Database) (id : String) : Option Bool :=
  (database.inboxMessages.get id).map fun row => decide (row.read ≠ 0)

section Orders

variable [Rfc3339] [StatusText] [MessageNames MessageType]

/-- A message is inserted. -/
def insertion (message : StoredMessage MessageType) : StoreCall MessageType :=
  ⟨.insertInboxMessage message, none⟩

/-- Messages are marked as read. -/
def mark (ids : List String) : StoreCall MessageType := ⟨.markInboxRead ids, none⟩

theorem readFlags_insertion_mark {database : Database} {message : StoredMessage MessageType}
    (stored : database.inboxMessages.containsKey message.messageId = true) {ids : List String}
    (named : message.messageId ∈ ids) :
    readFlags ((sqlStore MessageType).run database [insertion message, mark ids]) =
      readFlags ((sqlStore MessageType).run database [mark ids, insertion message]) ↔
      message.read = true := by
  obtain ⟨row, found⟩ := HashMap.containsKey_iff.mp stored
  have through : Work.LetsThrough none 1 := fun _ member => by cases member
  simp only [insertion, mark, Mealy.run_cons, Mealy.run_nil, step_insertInboxMessage through,
    step_markInboxRead]
  -- The insert touches its own message only, which the marks set.
  have front (id : String) := get_foldl_setRead ids
    (database.withInbox (upsertInboxRow message.messageId (inboxRow message))) id
  have back (id : String) := get_upsertInboxRow message.messageId (inboxRow message)
    (ids.foldl (fun database id => Database.withInbox (setRead id) database) database).inboxMessages
    id
  have marked (id : String) := get_foldl_setRead ids database id
  constructor
  · intro same
    have here := congrFun same message.messageId
    unfold readFlags at here
    rw [front, if_pos named, upserted_flag found] at here
    change _ = Option.map _ ((upsertInboxRow _ _ _).get _) at here
    rw [back, if_pos rfl, marked, if_pos named, found] at here
    simpa [read_inboxRow_ne_zero] using here
  · intro read
    funext id
    unfold readFlags
    rw [front]
    change _ = Option.map _ ((upsertInboxRow _ _ _).get _)
    rw [back]
    by_cases same : id = message.messageId
    · rw [same, if_pos named, upserted_flag found, if_pos rfl, marked, if_pos named, found]
      simp [read_inboxRow_ne_zero, read]
    · have elsewhere : (database.withInbox (upsertInboxRow message.messageId
          (inboxRow message))).inboxMessages.get id = database.inboxMessages.get id :=
        (get_upsertInboxRow _ _ _ _).trans (if_neg same)
      rw [if_neg same, marked, elsewhere]

variable [MessageText MessageType] [TimestampText]

/-- Over any run of the store a message which was reported as read is reported so from then on
exactly as long as no unread copy of it is inserted, and a copy of a stored message may be inserted
on either side of a mark of it exactly if it is read. -/
theorem readFlags_monotone_iff :
    (∀ (database : Database) (calls : List (StoreCall MessageType)),
      (∀ id, (sqlStore MessageType).Persists (ReportsRead MessageType id) database calls) ↔
        ∀ step ∈ (sqlStore MessageType).trace database calls, ¬Unmarks step.before step.event) ∧
    ∀ (database : Database) (message : StoredMessage MessageType) (ids : List String),
      database.inboxMessages.containsKey message.messageId = true → message.messageId ∈ ids →
      (readFlags ((sqlStore MessageType).run database [insertion message, mark ids]) =
          readFlags ((sqlStore MessageType).run database [mark ids, insertion message]) ↔
        message.read = true) := by
  refine ⟨fun database calls => ?_, fun _ _ _ stored named => readFlags_insertion_mark stored named⟩
  simp only [Mealy.persists_iff]
  rw [forall_comm]
  refine forall_congr' fun step => ?_
  rw [forall_comm]
  refine forall_congr' fun member => ?_
  obtain ⟨front, call, back, -, rfl⟩ := Mealy.mem_trace.mp member
  exact reportsRead_step call

end Orders

/-! ## A message which is sent again -/

section Resent

attribute [local instance] Rfc3339.utc StatusText.snakeCase
attribute [local instance] TimestampText.regular MessageNames.plain MessageText.plain

/-- A message as it is posted. -/
def posted : StoredMessage String where
  messageId := "msg_a"
  fromSession := "sess_a"
  toSession := "sess_b"
  subject := "build"
  body := "done"
  priority := .normal
  messageType := "response"
  threadId := none
  references := none
  ts := (DateTime.ofSeconds 1781258400 (Nat.le_of_ble_eq_true rfl)).timestamp
  read := false

/-- The message is posted, marked, and posted once more. -/
def resending : List (StoreCall String) := [insertion posted, mark ["msg_a"], insertion posted]

theorem not_persists_resending :
    ¬(sqlStore String).Persists (ReportsRead String "msg_a") Database.empty resending := by
  intro stays
  have marked : reportedFlag String "msg_a"
      ((sqlStore String).run Database.empty [insertion posted, mark ["msg_a"]]) = some true := by
    decide +kernel
  have unmarked : reportedFlag String "msg_a" ((sqlStore String).run Database.empty resending) =
      some false := by
    decide +kernel
  have still := stays [insertion posted, mark ["msg_a"]] resending ⟨[insertion posted], rfl⟩
    (List.prefix_refl _) (reportsRead_iff_flag.mpr marked)
  rw [reportsRead_iff_flag, unmarked] at still
  cases still

/-- Once the message is posted, it matters whether it is marked before it is posted again. -/
theorem readFlags_monotone_iff_posted :
    readFlags ((sqlStore String).run ((sqlStore String).run Database.empty [insertion posted])
        [insertion posted, mark ["msg_a"]]) ≠
      readFlags ((sqlStore String).run ((sqlStore String).run Database.empty [insertion posted])
        [mark ["msg_a"], insertion posted]) := by
  intro same
  have read := ((@readFlags_monotone_iff String _ _ _ _ _).2 _ posted ["msg_a"]
    (by decide +kernel) (by decide)).mp same
  cases read

end Resent

end TeamComm
