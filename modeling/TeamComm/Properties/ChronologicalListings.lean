import TeamComm.Daemon.DbListings

/-!
# Listings in chronological order

The store sorts messages, threads and participants by the texts of their timestamps.  Texts of
four-digit years are ordered like the timestamps, whatever fractions and leap seconds they spell,
so rows with distinct timestamps are listed in chronological order.
-/

namespace TeamComm

section Selection

variable {Key Row : Type} [DecidableEq Key] {belongs : Key → Row → Bool} {column : Row → String}
  {stamp : Key → Timestamp} {table : HashMap Key Row}

/-- The rows which belong carry the texts of distinct timestamps in four-digit years. -/
structure Stamped (belongs : Key → Row → Bool) (column : Row → String) (stamp : Key → Timestamp)
    (table : HashMap Key Row) : Prop where
  /-- The column holds the text of the timestamp. -/
  text : ∀ key row, table.get key = some row → belongs key row = true →
    column row = (stamp key).toRfc3339
  /-- The timestamp lies in a four-digit year. -/
  years : ∀ key row, table.get key = some row → belongs key row = true →
    (stamp key).FourDigitYear
  /-- No two rows share a timestamp. -/
  distinct : ∀ key other row another, table.get key = some row → belongs key row = true →
    table.get other = some another → belongs other another = true → stamp key = stamp other →
    key = other

/-- All rows which belong, the earliest first. -/
structure Chronological (belongs : Key → Row → Bool) (stamp : Key → Timestamp)
    (table : HashMap Key Row) (rows : List (Σ _ : Key, Row)) : Prop where
  /-- The rows are those which belong. -/
  complete : ∀ key row, ⟨key, row⟩ ∈ rows ↔ table.get key = some row ∧ belongs key row = true
  /-- Each timestamp is earlier than those behind it. -/
  ascending : rows.Pairwise fun left right => stamp left.1 < stamp right.1

theorem Stamped.chronological (stamped : Stamped belongs column stamp table) (order : IterOrder) :
    Chronological belongs stamp table (selectOrdered order belongs column table) := by
  refine ⟨fun _ _ => mem_selectOrdered, ?_⟩
  have member : ∀ entry ∈ (order.arrange table.entries).filter fun entry => belongs entry.1 entry.2,
      table.get entry.1 = some entry.2 ∧ belongs entry.1 entry.2 = true := by
    intro entry inside
    obtain ⟨visited, passes⟩ := List.mem_filter.mp inside
    exact ⟨HashMap.mem_entries.mp (IterOrder.mem_arrange.mp visited), passes⟩
  refine TextOrder.orderBy_ascending (fun left left_member right right_member => ?_) ?_
  · obtain ⟨left_found, left_passes⟩ := member left left_member
    obtain ⟨right_found, right_passes⟩ := member right right_member
    rw [stamped.text _ _ left_found left_passes, stamped.text _ _ right_found right_passes]
    exact Timestamp.bytes_lt_iff (stamped.years _ _ left_found left_passes)
      (stamped.years _ _ right_found right_passes)
  · have entries_nodup : (order.arrange table.entries).Nodup :=
      (order.perm table.entries).nodup_iff.mpr table.nodupKeys.nodup
    refine List.Nodup.map_on ?_ (entries_nodup.filter _)
    rintro ⟨key, row⟩ here ⟨other, another⟩ there same
    obtain ⟨found, passes⟩ := member _ here
    obtain ⟨other_found, other_passes⟩ := member _ there
    obtain rfl := stamped.distinct key other row another found passes other_found other_passes same
    obtain rfl := Option.some.inj (found.symm.trans other_found)
    rfl

end Selection

/-! ## What is read from a row -/

section Decoding

variable [TimestampText]

theorem parse_of_parseTimestamp {text context : String} {stamp : Timestamp}
    (parsed : parseTimestamp text context = .ok stamp) :
    TimestampText.parseFromRfc3339 text = .ok stamp := by
  unfold parseTimestamp at parsed
  cases read : TimestampText.parseFromRfc3339 text with
  | error => rw [read] at parsed; cases parsed
  | ok other =>
      rw [read] at parsed
      cases parsed
      rfl

theorem ts_of_rowToInbox {MessageType : Type} [MessageText MessageType] {id : String}
    {row : InboxRow} {message : StoredMessage MessageType}
    (decoded : rowToInbox id row = .ok message) :
    TimestampText.parseFromRfc3339 row.ts = .ok message.ts := by
  obtain ⟨priority, -, decoded⟩ := exists_of_bind decoded
  obtain ⟨messageType, -, decoded⟩ := exists_of_bind decoded
  obtain ⟨references, -, decoded⟩ := exists_of_bind decoded
  obtain ⟨ts, read, decoded⟩ := exists_of_bind decoded
  rw [parse_of_parseTimestamp read]
  exact congrArg (Except.ok ∘ StoredMessage.ts) (Except.ok.inj decoded)

theorem createdAt_of_rowToThread {id : String} {row : ThreadRow} {thread : Thread}
    (decoded : rowToThread id row = .ok thread) :
    TimestampText.parseFromRfc3339 row.createdAt = .ok thread.createdAt := by
  obtain ⟨status, -, decoded⟩ := exists_of_bind decoded
  obtain ⟨createdAt, read, decoded⟩ := exists_of_bind decoded
  rw [parse_of_parseTimestamp read]
  exact congrArg (Except.ok ∘ Thread.createdAt) (Except.ok.inj decoded)

end Decoding

/-! ## The listings -/

section Listings

/-- A listing returns what the rows which belong hold, the earliest first, and fails when one of
them holds nothing. -/
def ListsInOrder {Key Row Value : Type} [DecidableEq Key] (belongs : Key → Row → Bool)
    (stamp : Key → Timestamp) (table : HashMap Key Row)
    (decode : Key → Row → Except SqlError Value) (result : Except SqlError (List Value)) : Prop :=
  ∃ rows, Chronological belongs stamp table rows ∧
    result = rows.mapM fun entry => decode entry.1 entry.2

variable [TimestampText]

/-- The texts of the rows which belong are read as their timestamps. -/
def ReadsStamps {Key Row : Type} [DecidableEq Key] (belongs : Key → Row → Bool)
    (column : Row → String) (stamp : Key → Timestamp) (table : HashMap Key Row) : Prop :=
  ∀ key row, table.get key = some row → belongs key row = true →
    TimestampText.parseFromRfc3339 (column row) = .ok (stamp key)

/-- What is listed in the order of its rows is listed in the order of its own timestamps. -/
theorem ListsInOrder.ascending {Key Row Value : Type} [DecidableEq Key]
    {belongs : Key → Row → Bool} {column : Row → String} {stamp : Key → Timestamp}
    {table : HashMap Key Row} {decode : Key → Row → Except SqlError Value} {listed : List Value}
    (inOrder : ListsInOrder belongs stamp table decode (.ok listed))
    (reads : ReadsStamps belongs column stamp table) {held : Value → Timestamp}
    (holds : ∀ key row value, decode key row = .ok value →
      TimestampText.parseFromRfc3339 (column row) = .ok (held value)) :
    listed.Pairwise fun left right => held left < held right := by
  obtain ⟨rows, ⟨complete, ascending⟩, same⟩ := inOrder
  refine Table.list_pairwise same.symm ascending ?_
  intro left left_member right right_member earlier value other decoded other_decoded
  obtain ⟨left_found, left_belongs⟩ := (complete left.1 left.2).mp left_member
  obtain ⟨right_found, right_belongs⟩ := (complete right.1 right.2).mp right_member
  have left_held := (holds _ _ _ decoded).symm.trans (reads _ _ left_found left_belongs)
  have right_held := (holds _ _ _ other_decoded).symm.trans (reads _ _ right_found right_belongs)
  rw [Except.ok.inj left_held, Except.ok.inj right_held]
  exact earlier

/-- Timestamps in four-digit years are ordered like the bytes of their texts; so messages, threads
and participants with distinct ones are listed in chronological order, and as far as the texts are
read as what they spell, what is listed carries ascending timestamps. -/
theorem chronological_listings {MessageType : Type} [MessageText MessageType] :
    (∀ left right : Timestamp, left.FourDigitYear → right.FourDigitYear →
      (TextOrder.bytes left.toRfc3339 < TextOrder.bytes right.toRfc3339 ↔ left < right)) ∧
    (∀ (messages : HashMap String InboxRow) (order : IterOrder) (sessionId : String)
      (stamp : String → Timestamp), Stamped (sentTo sessionId) InboxRow.ts stamp messages →
      ListsInOrder (sentTo sessionId) stamp messages rowToInbox
        (listInbox order sessionId messages : Except SqlError (List (StoredMessage MessageType))) ∧
      (ReadsStamps (sentTo sessionId) InboxRow.ts stamp messages →
        ∀ listed : List (StoredMessage MessageType),
          listInbox order sessionId messages = .ok listed →
          listed.Pairwise fun left right => left.ts < right.ts)) ∧
    (∀ (tables : Tables) (order : IterOrder) (includeArchived : Bool)
      (stamp : String → Timestamp),
      Stamped (isListed includeArchived) ThreadRow.createdAt stamp tables.threads →
      ListsInOrder (isListed includeArchived) stamp tables.threads rowToThread
        (tables.ask (listThreads order includeArchived)) ∧
      (ReadsStamps (isListed includeArchived) ThreadRow.createdAt stamp tables.threads →
        ∀ listed, tables.ask (listThreads order includeArchived) = .ok listed →
          listed.Pairwise fun left right => left.createdAt < right.createdAt)) ∧
    ∀ (tables : Tables) (order : IterOrder) (threadId : String)
      (stamp : String × String → Timestamp),
      Stamped (takesPart threadId) id stamp tables.threadParticipants →
      ListsInOrder (takesPart threadId) stamp tables.threadParticipants
        (fun key _ => .ok key.2) (tables.ask (listThreadParticipants order threadId)) := by
  refine ⟨fun left right => Timestamp.bytes_lt_iff, ?_, ?_, ?_⟩
  · intro messages order sessionId stamp stamped
    have inOrder : ListsInOrder (sentTo sessionId) stamp messages rowToInbox
        (listInbox order sessionId messages : Except SqlError (List (StoredMessage MessageType))) :=
      ⟨_, stamped.chronological order, rfl⟩
    refine ⟨inOrder, fun reads listed same => ?_⟩
    rw [same] at inOrder
    exact inOrder.ascending reads fun _ _ _ decoded => ts_of_rowToInbox decoded
  · intro tables order includeArchived stamp stamped
    have inOrder : ListsInOrder (isListed includeArchived) stamp tables.threads rowToThread
        (tables.ask (listThreads order includeArchived)) := by
      rw [listThreads, Tables.ask_query]
      exact ⟨_, stamped.chronological order, rfl⟩
    refine ⟨inOrder, fun reads listed same => ?_⟩
    rw [same] at inOrder
    exact inOrder.ascending reads fun _ _ _ decoded => createdAt_of_rowToThread decoded
  · intro tables order threadId stamp stamped
    rw [listThreadParticipants, Tables.ask_query]
    refine ⟨_, stamped.chronological order, ?_⟩
    exact (Table.list_eq_ok.mpr (List.forall₂_map_right_iff.mpr
      (List.forall₂_same.mpr fun _ _ => rfl))).symm

end Listings

/-! ## Half a second later -/

section Halves

/-- Texts outside leap seconds are read as the instants of the store are. -/
local instance : TimestampText where
  parseFromRfc3339 text := (Rfc3339.utc.parseFromRfc3339 text).map DateTime.timestamp

/-- Priorities by their names, and two of the message types by theirs. -/
local instance : MessageText String where
  parsePriority
    | "low" => some .low
    | "normal" => some .normal
    | "high" => some .high
    | _ => none
  parseMessageType
    | "query" => some "query"
    | "response" => some "response"
    | _ => none

/-- A message between two agents. -/
def messageRow (ts : String) : InboxRow where
  fromSession := "sess_b"
  toSession := "sess_a"
  subject := "build"
  body := "done"
  priority := "normal"
  messageType := "response"
  threadId := none
  references := none
  ts
  read := 0

/-- The message with a fraction of a second is stored first. -/
def twoMessages : HashMap String InboxRow :=
  HashMap.insert (HashMap.insert ∅ "late" (messageRow "2026-06-12T10:00:00.500+00:00")) "early"
    (messageRow "2026-06-12T10:00:00+00:00")

theorem get_twoMessages {id : String} {row : InboxRow} :
    twoMessages.get id = some row ↔
      id = "early" ∧ row = messageRow "2026-06-12T10:00:00+00:00" ∨
        id = "late" ∧ row = messageRow "2026-06-12T10:00:00.500+00:00" := by
  unfold twoMessages
  rw [HashMap.get_insert, HashMap.get_insert]
  split
  next same => simp [same, eq_comm]
  next different => split <;> simp_all [eq_comm]

theorem chronological_listings_halves : ∃ listed : List (StoredMessage String),
    listInbox .stored "sess_a" twoMessages = .ok listed ∧
      listed.Pairwise fun left right => left.ts < right.ts := by
  let early : DateTime := ⟨1781258400000000000, by decide, by decide⟩
  let late : DateTime := ⟨1781258400500000000, by decide, by decide⟩
  let stamp (id : String) : Timestamp := if id = "early" then early.timestamp else late.timestamp
  have stamped : Stamped (sentTo "sess_a") InboxRow.ts stamp twoMessages := by
    constructor
    · intro id row found _
      rcases get_twoMessages.mp found with ⟨rfl, rfl⟩ | ⟨rfl, rfl⟩ <;> decide +kernel
    · intro id row found _
      rcases get_twoMessages.mp found with ⟨rfl, rfl⟩ | ⟨rfl, rfl⟩ <;> decide +kernel
    · intro id other row another found _ other_found _
      rcases get_twoMessages.mp found with ⟨rfl, rfl⟩ | ⟨rfl, rfl⟩ <;>
        rcases get_twoMessages.mp other_found with ⟨rfl, rfl⟩ | ⟨rfl, rfl⟩ <;> decide +kernel
  have reads : ReadsStamps (sentTo "sess_a") InboxRow.ts stamp twoMessages := by
    intro id row found _
    rcases get_twoMessages.mp found with ⟨rfl, rfl⟩ | ⟨rfl, rfl⟩ <;> rfl
  obtain ⟨⟨rows, ⟨complete, -⟩, same⟩, ascends⟩ :=
    (@chronological_listings _ String _).2.1 twoMessages .stored "sess_a" stamp stamped
  obtain ⟨listed, decoded⟩ : ∃ listed : List (StoredMessage String),
      (rows.mapM fun entry => rowToInbox entry.1 entry.2) = .ok listed := by
    refine Table.exists_list.mpr fun ⟨id, row⟩ member => ?_
    rcases get_twoMessages.mp ((complete id row).mp member).1 with ⟨rfl, rfl⟩ | ⟨rfl, rfl⟩ <;>
      exact ⟨_, rfl⟩
  exact ⟨listed, same.trans decoded, ascends reads listed (same.trans decoded)⟩

end Halves

end TeamComm
