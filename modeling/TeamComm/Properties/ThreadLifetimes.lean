import TeamComm.Properties.StoreAtomicity

/-!
# Threads and their creators

A thread and its participants are supposed to stay until they are removed.  The row of a thread
refers to the session of its creator, though, and goes along when that session is deleted, whoever
else takes part; so threads last exactly as long as no creator's session is deleted, and as far as
the time of every new thread is written as a text which is read again.
-/

namespace TeamComm

open Transactions

variable {MessageType : Type}

/-! ## What a call does to threads -/

/-- The operation may change threads or participants. -/
def StoreOperation.touchesThreads : StoreOperation MessageType → Bool
  | .write (.deleteSession _) | .upsertThread _ | .deleteThread _ | .addThreadParticipant _ _ _
  | .removeThreadParticipant _ _ => true
  | _ => false

/-- What an operation which gets through does to sessions, threads and participants. -/
inductive ThreadEffect (before : Tables) : StoreOperation MessageType → Tables → Prop
  | elsewhere (operation : StoreOperation MessageType) (after : Tables)
      (other : operation.touchesThreads = false)
      (sessions : ∀ id, before.sessions.containsKey id = true →
        after.sessions.containsKey id = true)
      (threads : after.threads = before.threads)
      (participants : after.threadParticipants = before.threadParticipants) :
      ThreadEffect before operation after
  | deletesSession (sessionId : String) (deleted : Tables) (after : Tables)
      (done : before.deleteSession sessionId = .ok deleted)
      (sessions : after.sessions = deleted.sessions) (threads : after.threads = deleted.threads)
      (participants : after.threadParticipants = deleted.threadParticipants) :
      ThreadEffect before (.write (.deleteSession sessionId)) after
  | upsertsThread (thread : Thread) (after : Tables)
      (done : before.upsertThread thread.threadId (threadRow thread) = .ok after) :
      ThreadEffect before (.upsertThread thread) after
  | deletesThread (threadId : String) (after : Tables)
      (done : (before.withoutParticipants threadId).deleteThread threadId = .ok after) :
      ThreadEffect before (.deleteThread threadId) after
  | addsParticipant (threadId sessionId : String) (now : Timestamp) (after : Tables)
      (done : before.insertThreadParticipant threadId sessionId now.toRfc3339 = .ok after) :
      ThreadEffect before (.addThreadParticipant threadId sessionId now) after
  | removesParticipant (threadId sessionId : String) (after : Tables)
      (done : before.deleteThreadParticipant threadId sessionId = .ok after) :
      ThreadEffect before (.removeThreadParticipant threadId sessionId) after

/-- A referring row is written where the session is. -/
theorem Tables.of_referencesSession {tables changed left : Tables} {sessionId : String}
    (done : tables.referencesSession sessionId changed = .ok left) :
    tables.sessions.containsKey sessionId = true ∧ changed = left := by
  unfold Tables.referencesSession at done
  split at done
  next present => exact ⟨present, Except.ok.inj done⟩
  next => cases done

/-- Participants of other threads stay. -/
theorem Tables.stays_withoutParticipants {tables : Tables} {threadId other sessionId : String}
    (different : threadId ≠ other)
    (stored : tables.threadParticipants.containsKey (other, sessionId) = true) :
    (tables.withoutParticipants threadId).threadParticipants.containsKey (other, sessionId) =
      true := by
  obtain ⟨joinedAt, found⟩ := HashMap.containsKey_iff.mp stored
  refine HashMap.containsKey_iff.mpr ⟨joinedAt, HashMap.get_retain_eq_some.mpr ⟨found, ?_⟩⟩
  exact decide_eq_true different.symm

/-- An upserted thread has a row, new or changed in what is no reference and no time. -/
theorem Tables.of_upsertThread {tables left : Tables} {thread : Thread}
    (done : tables.upsertThread thread.threadId (threadRow thread) = .ok left) : ∃ row,
      (∀ threadId, left.threads.get threadId =
        if threadId = thread.threadId then some row else tables.threads.get threadId) ∧
      row.status = thread.status.asStr ∧ left.sessions = tables.sessions ∧
      left.threadParticipants = tables.threadParticipants ∧
      ((∃ stored, tables.threads.get thread.threadId = some stored ∧
          row.createdBy = stored.createdBy ∧ row.createdAt = stored.createdAt) ∨
        tables.threads.get thread.threadId = none ∧
          tables.sessions.containsKey thread.createdBy = true ∧ row = threadRow thread) := by
  unfold Tables.upsertThread at done
  split at done
  next present =>
    obtain ⟨stored, found⟩ := HashMap.containsKey_iff.mp present
    let changed : ThreadRow := { stored with
      title := thread.title, topic := thread.topic, status := thread.status.asStr }
    rw [← Except.ok.inj done]
    refine ⟨changed, fun threadId => ?_, rfl, rfl, rfl, Or.inl ⟨stored, found, rfl, rfl⟩⟩
    rw [HashMap.get_modify]
    split
    next same => rw [same, found]; rfl
    next => rfl
  next absent =>
    have missing : tables.threads.get thread.threadId = none := by
      simpa [HashMap.containsKey] using absent
    obtain ⟨present, same⟩ := Tables.of_referencesSession done
    rw [← same]
    exact ⟨threadRow thread, fun threadId => HashMap.get_insert _ _ _ _, rfl, rfl, rfl,
      Or.inr ⟨missing, present, rfl⟩⟩

section Effects

variable [Rfc3339] [StatusText] {database : Database} {failsIn : Option Nat} {result : PUnit}
  {after : Transactions.Connection Database}

theorem threadEffect_write (change : StoreWrite)
    (done : (Sql.onDatabase change.perform).exec ⟨database, failsIn⟩ = (.ok result, after)) :
    ThreadEffect database.tables (.write change : StoreOperation MessageType)
      after.content.tables := by
  cases change with
  | upsertSession session =>
      obtain ⟨begun, ending, body, same⟩ := Sql.transaction_of_ok done
      obtain ⟨_, ⟨first, rest⟩, inserted, indexed⟩ := Work.exec_bind_eq_ok.mp body
      have first_eq : database.tables.insertSession session.sessionId (sessionRow session) =
        .ok first := Work.execute_of_ok inserted
      have last_eq : first.insertSessionByPid (pidColumn session.pid) session.sessionId =
        .ok ending.content := Work.execute_of_ok indexed
      rw [same, ← (Tables.of_referencesSession last_eq).2, ← Except.ok.inj first_eq]
      refine .elsewhere _ _ rfl (fun id stored => ?_) rfl rfl
      exact (HashMap.containsKey_insert _ _ _ _).mpr (Or.inr stored)
  | deleteSession sessionId =>
      obtain ⟨begun, ending, body, same⟩ := Sql.transaction_of_ok done
      obtain ⟨pid, ⟨first, rest⟩, asked, body⟩ := Work.exec_bind_eq_ok.mp body
      obtain rfl : first = database.tables := (Work.query_of_ok asked).2
      obtain ⟨_, ⟨deleted, rest⟩, gone, body⟩ := Work.exec_bind_eq_ok.mp body
      have deleted_eq : database.tables.deleteSession sessionId = .ok deleted :=
        Work.execute_of_ok gone
      rw [same]
      cases pid with
      | none =>
          have last : deleted = ending.content :=
            congrArg Transactions.Connection.content (Prod.mk.inj body).2
          exact .deletesSession sessionId deleted _ deleted_eq (last ▸ rfl) (last ▸ rfl)
            (last ▸ rfl)
      | some pid =>
          dsimp only at body
          have last : deleted.deleteSessionByPid pid = .ok ending.content :=
            Work.execute_of_ok body
          rw [← Except.ok.inj last]
          exact .deletesSession sessionId deleted _ deleted_eq rfl rfl rfl
  | upsertReservation reservation =>
      have written : database.tables.insertReservation _ (reservationRow reservation) =
        .ok after.content.tables := Sql.execute_of_ok done
      rw [← (Tables.of_referencesSession written).2]
      exact .elsewhere _ _ rfl (fun _ stored => stored) rfl rfl
  | deleteReservation reservationId =>
      have written : database.tables.deleteReservation reservationId = .ok after.content.tables :=
        Sql.execute_of_ok done
      rw [← Except.ok.inj written]
      exact .elsewhere _ _ rfl (fun _ stored => stored) rfl rfl
  | upsertLiveState live =>
      have written : database.tables.insertLiveState _ (liveStateRow live) =
        .ok after.content.tables := Sql.execute_of_ok done
      rw [← (Tables.of_referencesSession written).2]
      exact .elsewhere _ _ rfl (fun _ stored => stored) rfl rfl

end Effects

section Calls

variable [Rfc3339] [StatusText] [MessageNames MessageType] {before : Database}
  {call : StoreCall MessageType}

/-- A call which fails leaves the tables as they were. -/
theorem tables_of_error {error : SqlError}
    (failed : ((sqlStore MessageType).step before call).1 = .error error) :
    ((sqlStore MessageType).step before call).2.tables = before.tables := by
  obtain ⟨operation, failsIn⟩ := call
  have single (other : StoreOperation MessageType) (atomic : Work.AllOrNothing other.perform)
      (failed : (other.perform.exec ⟨before, failsIn⟩).1 = .error error) :
      (other.perform.exec ⟨before, failsIn⟩).2.content.tables = before.tables :=
    congrArg Database.tables (atomic before failsIn error _ (Prod.ext failed rfl))
  cases operation with
  | applyMigrations => exact keeps_applyMigrations (fun _ _ _ => rfl) before failsIn
  | insertInboxMessage message =>
      exact keeps_insertInboxMessage (fun _ _ => rfl) message before failsIn
  | markInboxRead ids => exact keeps_markInboxRead (fun _ _ => rfl) ids before failsIn
  | write change => exact single (.write change) (allOrNothing_write change) failed
  | upsertThread thread =>
      exact single (.upsertThread thread)
        (allOrNothing_statement (Tables.upsertThread _ (threadRow thread))) failed
  | deleteThread threadId =>
      exact single (.deleteThread threadId) (allOrNothing_transaction _) failed
  | addThreadParticipant threadId sessionId now =>
      exact single (.addThreadParticipant threadId sessionId now)
        (allOrNothing_statement (Tables.insertThreadParticipant _ _ _)) failed
  | removeThreadParticipant threadId sessionId =>
      exact single (.removeThreadParticipant threadId sessionId)
        (allOrNothing_statement (Tables.deleteThreadParticipant _ _)) failed

theorem threadEffect {result : PUnit}
    (done : ((sqlStore MessageType).step before call).1 = .ok result) :
    ThreadEffect before.tables call.operation
      ((sqlStore MessageType).step before call).2.tables := by
  obtain ⟨operation, failsIn⟩ := call
  have keeps {other : StoreOperation MessageType} (harmless : other.touchesThreads = false)
      (leaves : Work.Keeps Database.tables other.perform) :
      ThreadEffect before.tables other
        ((sqlStore MessageType).step before ⟨other, failsIn⟩).2.tables := by
    have same : ((sqlStore MessageType).step before ⟨other, failsIn⟩).2.tables = before.tables :=
      leaves before failsIn
    rw [same]
    exact .elsewhere other _ harmless (fun _ stored => stored) rfl rfl
  have outcome : operation.perform.exec ⟨before, failsIn⟩ =
      (.ok result, (operation.perform.exec ⟨before, failsIn⟩).2) := Prod.ext done rfl
  cases operation with
  | applyMigrations => exact keeps rfl (keeps_applyMigrations fun _ _ _ => rfl)
  | insertInboxMessage message => exact keeps rfl (keeps_insertInboxMessage (fun _ _ => rfl) _)
  | markInboxRead ids => exact keeps rfl (keeps_markInboxRead (fun _ _ => rfl) _)
  | write change => exact threadEffect_write change outcome
  | upsertThread thread => exact .upsertsThread thread _ (Sql.execute_of_ok outcome)
  | deleteThread threadId =>
      obtain ⟨begun, ending, body, same⟩ := Sql.transaction_of_ok outcome
      obtain ⟨_, ⟨first, rest⟩, left, deleted⟩ := Work.exec_bind_eq_ok.mp body
      have first_eq : before.tables.deleteThreadParticipants threadId = .ok first :=
        Work.execute_of_ok left
      have last_eq : first.deleteThread threadId = .ok ending.content := Work.execute_of_ok deleted
      rw [← Except.ok.inj first_eq, ← same] at last_eq
      exact .deletesThread threadId _ last_eq
  | addThreadParticipant threadId sessionId now =>
      exact .addsParticipant threadId sessionId now _ (Sql.execute_of_ok outcome)
  | removeThreadParticipant threadId sessionId =>
      exact .removesParticipant threadId sessionId _ (Sql.execute_of_ok outcome)

end Calls

/-! ## What was stored and not removed -/

/-- One call of a run. -/
abbrev StoreStep (MessageType : Type) :=
  Mealy.Transition Database (StoreCall MessageType) (Except SqlError PUnit)

/-- A thread is kept from an upsert which succeeds to a deletion which does. -/
def keepsThread (threadId : String) (kept : Bool) (step : StoreStep MessageType) : Bool :=
  match step.output, step.event.operation with
  | .ok _, .upsertThread thread => kept || thread.threadId = threadId
  | .ok _, .deleteThread deleted => kept && deleted ≠ threadId
  | _, _ => kept

/-- A participant is kept until it leaves, or its thread or its session is deleted. -/
def keepsParticipant (threadId sessionId : String) (kept : Bool)
    (step : StoreStep MessageType) : Bool :=
  match step.output, step.event.operation with
  | .ok _, .addThreadParticipant thread session _ =>
      kept || (thread = threadId && session = sessionId)
  | .ok _, .removeThreadParticipant thread session =>
      kept && !(thread = threadId && session = sessionId)
  | .ok _, .deleteThread thread => kept && thread ≠ threadId
  | .ok _, .write (.deleteSession session) => kept && session ≠ sessionId
  | _, _ => kept

def threadKept (threadId : String) (steps : List (StoreStep MessageType)) : Bool :=
  steps.foldl (keepsThread threadId) false

def participantKept (threadId sessionId : String) (steps : List (StoreStep MessageType)) : Bool :=
  steps.foldl (keepsParticipant threadId sessionId) false

theorem threadKept_snoc (threadId : String) (steps : List (StoreStep MessageType))
    (step : StoreStep MessageType) :
    threadKept threadId (steps ++ [step]) = keepsThread threadId (threadKept threadId steps) step :=
  List.foldl_concat ..

theorem participantKept_snoc (threadId sessionId : String) (steps : List (StoreStep MessageType))
    (step : StoreStep MessageType) : participantKept threadId sessionId (steps ++ [step]) =
      keepsParticipant threadId sessionId (participantKept threadId sessionId steps) step :=
  List.foldl_concat ..

/-- Every kept thread is read and every kept participant is listed. -/
structure ThreadsLast [TimestampText] (steps : List (StoreStep MessageType))
    (database : Database) : Prop where
  threads : ∀ threadId, threadKept threadId steps = true →
    ∃ thread, database.tables.ask (getThread threadId) = .ok (some thread)
  participants : ∀ threadId sessionId, participantKept threadId sessionId steps = true →
    ∀ order, ∃ listed, database.tables.ask (listThreadParticipants order threadId) = .ok listed ∧
      sessionId ∈ listed

/-! ## What threads depend on -/

/-- The statements which delete a session: the transaction, the look-up and two deletions. -/
def deleteSessionStatements : Nat := 5

/-- No creator of a thread is deleted. -/
def SparesCreators (database : Database) (call : StoreCall MessageType) : Prop :=
  ∀ sessionId, call.operation = .write (.deleteSession sessionId) →
    Work.LetsThrough call.failsIn deleteSessionStatements →
    ∀ threadId row, database.tables.threads.get threadId = some row → row.createdBy ≠ sessionId

/-- The text of a timestamp is read at all. -/
def Timestamp.Readable [TimestampText] (stamp : Timestamp) : Prop :=
  ∃ other, TimestampText.parseFromRfc3339 stamp.toRfc3339 = .ok other

/-- The time of every new thread is read again. -/
def StoresReadable [TimestampText] (database : Database) (call : StoreCall MessageType) : Prop :=
  ∀ thread, call.operation = .upsertThread thread → Work.LetsThrough call.failsIn 1 →
    database.tables.threads.get thread.threadId = none →
    database.tables.sessions.containsKey thread.createdBy = true → thread.createdAt.Readable

/-- Kept threads are stored, belong to sessions and are read, and kept participants are stored. -/
structure ThreadInvariant [TimestampText] (steps : List (StoreStep MessageType))
    (tables : Tables) : Prop where
  kept : ∀ threadId, threadKept threadId steps = true ↔
    ∃ row, tables.threads.get threadId = some row
  readable : ∀ threadId row, tables.threads.get threadId = some row →
    ∃ thread, rowToThread threadId row = .ok thread
  registered : ∀ threadId row, tables.threads.get threadId = some row →
    tables.sessions.containsKey row.createdBy = true
  participants : ∀ threadId sessionId, participantKept threadId sessionId steps = true →
    tables.threadParticipants.containsKey (threadId, sessionId) = true

section Invariant

variable [TimestampText] {steps : List (StoreStep MessageType)}

theorem ThreadInvariant.threadsLast {database : Database}
    (invariant : ThreadInvariant steps database.tables) : ThreadsLast steps database := by
  constructor
  · intro threadId kept
    obtain ⟨row, found⟩ := (invariant.kept threadId).mp kept
    obtain ⟨thread, decoded⟩ := invariant.readable threadId row found
    exact ⟨thread, (ask_getThread _ _).trans (Table.read_eq_some.mpr ⟨row, found, decoded⟩)⟩
  · intro threadId sessionId kept order
    obtain ⟨joinedAt, found⟩ :=
      HashMap.containsKey_iff.mp (invariant.participants threadId sessionId kept)
    refine ⟨_, Tables.ask_query _ _, List.mem_map.mpr ⟨⟨(threadId, sessionId), joinedAt⟩, ?_, rfl⟩⟩
    exact mem_selectOrdered.mpr ⟨found, decide_eq_true rfl⟩

theorem threadInvariant_fresh :
    ThreadInvariant ([] : List (StoreStep MessageType)) Database.fresh.tables where
  kept _ := iff_of_false (fun kept => by cases kept) (fun ⟨_, found⟩ => by cases found)
  readable _ _ found := by cases found
  registered _ _ found := by cases found
  participants _ _ kept := by cases kept

/-- A thread is read as long as its status and its time are. -/
theorem exists_rowToThread {threadId : String} {row : ThreadRow} :
    (∃ thread, rowToThread threadId row = .ok thread) ↔
      (∃ status, ThreadStatus.parse row.status = some status) ∧
        ∃ stamp, TimestampText.parseFromRfc3339 row.createdAt = .ok stamp := by
  unfold rowToThread parseTimestamp
  cases ThreadStatus.parse row.status with
  | none => exact iff_of_false (fun ⟨_, decoded⟩ => by cases decoded) (by simp)
  | some status =>
      cases TimestampText.parseFromRfc3339 row.createdAt with
      | error => exact iff_of_false (fun ⟨_, decoded⟩ => by cases decoded) (by simp)
      | ok stamp => exact iff_of_true ⟨_, rfl⟩ ⟨⟨_, rfl⟩, ⟨_, rfl⟩⟩

/-- A call which fails is no reason to keep anything, nor not to. -/
theorem ThreadInvariant.fails {before after : Database}
    (invariant : ThreadInvariant steps before.tables) (call : StoreCall MessageType)
    (error : SqlError) (same : after.tables = before.tables) :
    ThreadInvariant (steps ++ [⟨before, call, .error error, after⟩]) after.tables := by
  rw [same]
  refine ⟨fun threadId => ?_, invariant.readable, invariant.registered,
    fun threadId sessionId kept => ?_⟩
  · rw [threadKept_snoc]
    exact invariant.kept threadId
  · rw [participantKept_snoc] at kept
    exact invariant.participants threadId sessionId kept

/-- What is kept does not depend on calls about anything else. -/
theorem ThreadInvariant.elsewhere {before after : Database}
    (invariant : ThreadInvariant steps before.tables) {call : StoreCall MessageType}
    (other : call.operation.touchesThreads = false) (result : PUnit)
    (sessions : ∀ id, before.tables.sessions.containsKey id = true →
      after.tables.sessions.containsKey id = true)
    (threads : after.tables.threads = before.tables.threads)
    (participants : after.tables.threadParticipants = before.tables.threadParticipants) :
    ThreadInvariant (steps ++ [⟨before, call, .ok result, after⟩]) after.tables := by
  have same_thread (threadId : String) (kept : Bool) :
      keepsThread threadId kept ⟨before, call, .ok result, after⟩ = kept := by
    unfold keepsThread
    dsimp only
    split
    next same => rw [same] at other; cases other
    next same => rw [same] at other; cases other
    next => rfl
  have same_participant (threadId sessionId : String) (kept : Bool) :
      keepsParticipant threadId sessionId kept ⟨before, call, .ok result, after⟩ = kept := by
    unfold keepsParticipant
    dsimp only
    split
    next same => rw [same] at other; cases other
    next same => rw [same] at other; cases other
    next same => rw [same] at other; cases other
    next same => rw [same] at other; cases other
    next => rfl
  constructor
  · intro threadId
    rw [threadKept_snoc, same_thread, threads]
    exact invariant.kept threadId
  · rw [threads]
    exact invariant.readable
  · rw [threads]
    exact fun threadId row found => sessions _ (invariant.registered threadId row found)
  · intro threadId sessionId kept
    rw [participantKept_snoc, same_participant] at kept
    rw [participants]
    exact invariant.participants threadId sessionId kept

/-- A deleted session takes along its participations only, unless it created a thread. -/
theorem ThreadInvariant.deletesSession {before after : Database} {sessionId : String}
    {deleted : Tables} (invariant : ThreadInvariant steps before.tables) (failsIn : Option Nat)
    (result : PUnit) (done : before.tables.deleteSession sessionId = .ok deleted)
    (sessions : after.tables.sessions = deleted.sessions)
    (threads : after.tables.threads = deleted.threads)
    (participants : after.tables.threadParticipants = deleted.threadParticipants)
    (spares : ∀ threadId row, before.tables.threads.get threadId = some row →
      row.createdBy ≠ sessionId) :
    ThreadInvariant (steps ++ [⟨before, ⟨.write (.deleteSession sessionId), failsIn⟩, .ok result,
      after⟩]) after.tables := by
  obtain rfl := Except.ok.inj done
  have get_threads (threadId : String) :
      after.tables.threads.get threadId = before.tables.threads.get threadId := by
    rw [threads]
    split
    · refine (HashMap.get_retain _ _ _).trans ?_
      cases found : before.tables.threads.get threadId with
      | none => rfl
      | some row => exact if_pos (decide_eq_true (spares threadId row found))
    · rfl
  have still_registered {other : String} (different : other ≠ sessionId)
      (stored : before.tables.sessions.containsKey other = true) :
      after.tables.sessions.containsKey other = true := by
    rw [sessions]
    split
    · exact (HashMap.containsKey_remove _ _ _).mpr ⟨different, stored⟩
    · exact stored
  constructor
  · intro threadId
    rw [threadKept_snoc, get_threads]
    exact invariant.kept threadId
  · intro threadId row found
    rw [get_threads] at found
    exact invariant.readable threadId row found
  · intro threadId row found
    rw [get_threads] at found
    exact still_registered (spares threadId row found) (invariant.registered threadId row found)
  · intro threadId other kept
    rw [participantKept_snoc] at kept
    obtain ⟨kept, different⟩ : participantKept threadId other steps = true ∧ sessionId ≠ other := by
      simpa [keepsParticipant] using kept
    have stored := invariant.participants threadId other kept
    rw [participants]
    split
    · obtain ⟨joinedAt, found⟩ := HashMap.containsKey_iff.mp stored
      refine HashMap.containsKey_iff.mpr ⟨joinedAt, HashMap.get_retain_eq_some.mpr ⟨found, ?_⟩⟩
      refine decide_eq_true ⟨different.symm, fun created => ?_⟩
      obtain ⟨row, thread_found, created⟩ := Option.map_eq_some_iff.mp created
      exact spares threadId row thread_found created
    · exact stored

theorem ThreadInvariant.upsertsThread {before after : Database} {thread : Thread}
    (invariant : ThreadInvariant steps before.tables) (failsIn : Option Nat) (result : PUnit)
    (done : before.tables.upsertThread thread.threadId (threadRow thread) = .ok after.tables)
    (readable : before.tables.threads.get thread.threadId = none →
      before.tables.sessions.containsKey thread.createdBy = true → thread.createdAt.Readable) :
    ThreadInvariant (steps ++ [⟨before, ⟨.upsertThread thread, failsIn⟩, .ok result, after⟩])
      after.tables := by
  obtain ⟨row, get_threads, status, sessions, participants, source⟩ := Tables.of_upsertThread done
  have reads : ∃ stamp, TimestampText.parseFromRfc3339 row.createdAt = .ok stamp := by
    rcases source with ⟨stored, found, -, time⟩ | ⟨missing, present, rfl⟩
    · rw [time]
      exact (exists_rowToThread.mp (invariant.readable _ stored found)).2
    · exact readable missing present
  have decodes : ∃ decoded, rowToThread thread.threadId row = .ok decoded := by
    rw [exists_rowToThread, status]
    exact ⟨⟨_, ThreadStatus.parse_asStr thread.status⟩, reads⟩
  have registered : before.tables.sessions.containsKey row.createdBy = true := by
    rcases source with ⟨stored, found, creator, -⟩ | ⟨-, present, rfl⟩
    · rw [creator]
      exact invariant.registered _ stored found
    · exact present
  constructor
  · intro threadId
    rw [threadKept_snoc, get_threads]
    by_cases same : threadId = thread.threadId
    · simp [keepsThread, same]
    · simp [keepsThread, same, Ne.symm same, invariant.kept]
  · intro threadId other found
    rw [get_threads] at found
    split at found
    next same =>
      rw [same, ← Option.some.inj found]
      exact decodes
    next => exact invariant.readable threadId other found
  · intro threadId other found
    rw [get_threads] at found
    rw [sessions]
    split at found
    next => rwa [← Option.some.inj found]
    next => exact invariant.registered threadId other found
  · intro threadId sessionId kept
    rw [participantKept_snoc] at kept
    rw [participants]
    exact invariant.participants threadId sessionId kept

theorem ThreadInvariant.deletesThread {before after : Database} {threadId : String}
    (invariant : ThreadInvariant steps before.tables) (failsIn : Option Nat) (result : PUnit)
    (done : (before.tables.withoutParticipants threadId).deleteThread threadId =
      .ok after.tables) :
    ThreadInvariant (steps ++ [⟨before, ⟨.deleteThread threadId, failsIn⟩, .ok result, after⟩])
      after.tables := by
  have sessions : after.tables.sessions = before.tables.sessions := by
    rw [← Except.ok.inj done]
    split <;> rfl
  have get_threads (other : String) : after.tables.threads.get other =
      if other = threadId then none else before.tables.threads.get other := by
    rw [← Except.ok.inj done]
    split
    next => exact HashMap.get_remove _ _ _
    next absent =>
      have missing : before.tables.threads.get threadId = none := by
        simpa [HashMap.containsKey, Tables.withoutParticipants] using absent
      split
      next same => rw [same]; exact missing
      next => rfl
  have participants {other : String} {sessionId : String} (different : threadId ≠ other)
      (stored : before.tables.threadParticipants.containsKey (other, sessionId) = true) :
      after.tables.threadParticipants.containsKey (other, sessionId) = true := by
    have once := Tables.stays_withoutParticipants different stored
    rw [← Except.ok.inj done]
    split
    next => exact Tables.stays_withoutParticipants different once
    next => exact once
  constructor
  · intro other
    rw [threadKept_snoc, get_threads]
    by_cases same : other = threadId
    · simp [keepsThread, same]
    · simp [keepsThread, same, Ne.symm same, invariant.kept]
  · intro other row found
    rw [get_threads] at found
    split at found
    next => cases found
    next => exact invariant.readable other row found
  · intro other row found
    rw [get_threads] at found
    rw [sessions]
    split at found
    next => cases found
    next => exact invariant.registered other row found
  · intro other sessionId kept
    rw [participantKept_snoc] at kept
    obtain ⟨kept, different⟩ : participantKept other sessionId steps = true ∧ threadId ≠ other := by
      simpa [keepsParticipant] using kept
    exact participants different (invariant.participants other sessionId kept)

/-- Threads do not depend on a change of participants. -/
theorem ThreadInvariant.ofParticipants {before after : Database} {call : StoreCall MessageType}
    {output : Except SqlError PUnit} (invariant : ThreadInvariant steps before.tables)
    (same : ∀ threadId kept, keepsThread threadId kept ⟨before, call, output, after⟩ = kept)
    (threads : after.tables.threads = before.tables.threads)
    (sessions : after.tables.sessions = before.tables.sessions)
    (participants : ∀ threadId sessionId,
      keepsParticipant threadId sessionId (participantKept threadId sessionId steps)
        ⟨before, call, output, after⟩ = true →
      after.tables.threadParticipants.containsKey (threadId, sessionId) = true) :
    ThreadInvariant (steps ++ [⟨before, call, output, after⟩]) after.tables := by
  refine ⟨fun threadId => ?_, ?_, ?_, fun threadId sessionId kept => ?_⟩
  · rw [threadKept_snoc, same, threads]
    exact invariant.kept threadId
  · rw [threads]
    exact invariant.readable
  · rw [threads, sessions]
    exact invariant.registered
  · rw [participantKept_snoc] at kept
    exact participants threadId sessionId kept

theorem ThreadInvariant.addsParticipant {before after : Database} {threadId sessionId : String}
    {now : Timestamp} (invariant : ThreadInvariant steps before.tables) (failsIn : Option Nat)
    (result : PUnit)
    (done : before.tables.insertThreadParticipant threadId sessionId now.toRfc3339 =
      .ok after.tables) :
    ThreadInvariant (steps ++ [⟨before, ⟨.addThreadParticipant threadId sessionId now, failsIn⟩,
      .ok result, after⟩]) after.tables := by
  obtain ⟨threads, sessions, participants⟩ : after.tables.threads = before.tables.threads ∧
      after.tables.sessions = before.tables.sessions ∧
      ∀ key, after.tables.threadParticipants.containsKey key = true ↔
        key = (threadId, sessionId) ∨
          before.tables.threadParticipants.containsKey key = true := by
    unfold Tables.insertThreadParticipant at done
    split at done
    next present =>
      rw [← Except.ok.inj done]
      refine ⟨rfl, rfl, fun key => ⟨Or.inr, ?_⟩⟩
      rintro (rfl | stored)
      exacts [present, stored]
    next =>
      split at done
      next =>
        rw [← (Tables.of_referencesSession done).2]
        exact ⟨rfl, rfl, fun key => HashMap.containsKey_insert _ _ _ key⟩
      next => cases done
  refine invariant.ofParticipants (fun _ _ => rfl) threads sessions fun thread session kept => ?_
  rw [participants]
  have here : participantKept thread session steps = true ∨
      threadId = thread ∧ sessionId = session := by
    simpa [keepsParticipant] using kept
  rcases here with kept | ⟨rfl, rfl⟩
  · exact Or.inr (invariant.participants thread session kept)
  · exact Or.inl rfl

theorem ThreadInvariant.removesParticipant {before after : Database}
    {threadId sessionId : String} (invariant : ThreadInvariant steps before.tables)
    (failsIn : Option Nat) (result : PUnit)
    (done : before.tables.deleteThreadParticipant threadId sessionId = .ok after.tables) :
    ThreadInvariant (steps ++ [⟨before, ⟨.removeThreadParticipant threadId sessionId, failsIn⟩,
      .ok result, after⟩]) after.tables := by
  have left : { before.tables with threadParticipants :=
      before.tables.threadParticipants.remove (threadId, sessionId) } = after.tables :=
    Except.ok.inj done
  refine invariant.ofParticipants (fun _ _ => rfl) (by rw [← left]) (by rw [← left])
    fun thread session kept => ?_
  obtain ⟨kept, different⟩ : participantKept thread session steps = true ∧
      (threadId ≠ thread ∨ sessionId ≠ session) := by
    simpa [keepsParticipant] using kept
  rw [← left]
  refine (HashMap.containsKey_remove _ _ _).mpr
    ⟨fun same => ?_, invariant.participants thread session kept⟩
  obtain ⟨rfl, rfl⟩ := Prod.mk.inj same
  rcases different with different | different <;> exact different rfl

end Invariant

/-! ## Calls which get through -/

section Through

variable [Rfc3339] [StatusText] [MessageNames MessageType] {before : Database}

/-- A call whose statements are counted succeeds as long as the database lets them through. -/
theorem exists_ok_iff (call : StoreCall MessageType) {statements : Nat} {result : PUnit}
    {left : Database}
    (takes : Work.Takes call.operation.perform before statements result left) :
    (∃ answer, ((sqlStore MessageType).step before call).1 = .ok answer) ↔
      Work.LetsThrough call.failsIn statements := by
  rw [← takes.exists_ok_iff]
  constructor
  · rintro ⟨answer, done⟩
    exact ⟨answer, _, Prod.ext done rfl⟩
  · rintro ⟨answer, after, done⟩
    exact ⟨answer, congrArg Prod.fst done⟩

omit [Rfc3339] [StatusText] [MessageNames MessageType] in
theorem takes_deleteSession {sessionId : String}
    (stored : before.tables.sessions.containsKey sessionId = true) :
    ∃ left, Work.Takes (Sql.onDatabase (deleteSession sessionId)) before deleteSessionStatements ⟨⟩
      left := by
  obtain ⟨row, found⟩ := HashMap.containsKey_iff.mp stored
  have look_up : Work.Takes (Work.query fun tables : Tables =>
      (.ok ((tables.sessions.get sessionId).map SessionRow.pid) : Except SqlError _))
      before.tables 1 (some row.pid) before.tables :=
    Work.Takes.query (by rw [found]; rfl)
  have delete : Work.Takes (Work.execute (Tables.deleteSession sessionId)) before.tables 1 ⟨⟩
      (before.tables.cascadeSession sessionId) :=
    Work.Takes.execute (by rw [Tables.deleteSession, if_pos stored])
  obtain ⟨left, unindex⟩ : ∃ left, Work.Takes (Work.execute (Tables.deleteSessionByPid row.pid))
      (before.tables.cascadeSession sessionId) 1 ⟨⟩ left := ⟨_, Work.Takes.execute rfl⟩
  have deletions : Work.Takes (do
      Work.execute (Tables.deleteSession sessionId)
      Work.execute (Tables.deleteSessionByPid row.pid)) before.tables (1 + 1) ⟨⟩ left :=
    delete.bind unindex
  have whole : Work.Takes (deleteSession sessionId) before.tables (1 + (1 + 1) + 2) ⟨⟩ left :=
    (look_up.bind deletions).transaction
  exact ⟨_, whole.zoom⟩

omit [Rfc3339] [StatusText] [MessageNames MessageType] in
theorem takes_statement {statement : Tables → Except SqlError Tables} {left : Tables}
    (changes : statement before.tables = .ok left) :
    Work.Takes (Sql.onDatabase (Work.execute statement)) before 1 ⟨⟩
      { before with tables := left } :=
  (Work.Takes.execute changes).zoom

end Through

/-! ## Runs -/

section Runs

variable [Rfc3339] [StatusText] [MessageNames MessageType] [TimestampText] {before : Database}
  {call : StoreCall MessageType} {steps : List (StoreStep MessageType)}

/-- A call which spares the creators and stores a time which is read keeps the invariant. -/
theorem ThreadInvariant.step (invariant : ThreadInvariant steps before.tables)
    (spares : SparesCreators before call) (readable : StoresReadable before call) :
    ThreadInvariant (steps ++ [(sqlStore MessageType).transition before call])
      ((sqlStore MessageType).step before call).2.tables := by
  unfold Mealy.transition
  rcases outcome : ((sqlStore MessageType).step before call).1 with error | result
  · exact invariant.fails call error (tables_of_error outcome)
  · obtain ⟨operation, failsIn⟩ := call
    have effect := threadEffect outcome
    have through {statements : Nat} {left : Database}
        (takes : Work.Takes operation.perform before statements ⟨⟩ left) :
        Work.LetsThrough failsIn statements :=
      (exists_ok_iff ⟨operation, failsIn⟩ takes).mp ⟨result, outcome⟩
    generalize ((sqlStore MessageType).step before ⟨operation, failsIn⟩).2 = after at effect ⊢
    dsimp only at effect
    generalize tables_eq : after.tables = tables at effect
    cases effect with
    | elsewhere _ _ other sessions threads participants =>
        subst tables_eq
        exact invariant.elsewhere other result sessions threads participants
    | deletesSession sessionId deleted _ done sessions threads participants =>
        subst tables_eq
        refine invariant.deletesSession failsIn result done sessions threads participants ?_
        intro threadId row found creator
        have stored := invariant.registered threadId row found
        rw [creator] at stored
        obtain ⟨left, takes⟩ := takes_deleteSession stored
        exact spares sessionId rfl (through takes) threadId row found creator
    | upsertsThread thread _ done =>
        subst tables_eq
        refine invariant.upsertsThread failsIn result done fun missing present => ?_
        exact readable thread rfl (through (takes_statement done)) missing present
    | deletesThread threadId _ done =>
        subst tables_eq
        exact invariant.deletesThread failsIn result done
    | addsParticipant threadId sessionId now _ done =>
        subst tables_eq
        exact invariant.addsParticipant failsIn result done
    | removesParticipant threadId sessionId _ done =>
        subst tables_eq
        exact invariant.removesParticipant failsIn result done

/-- A deleted creator takes the thread along, so a call after which all kept threads are read has
spared the creators. -/
theorem ThreadInvariant.sparesCreators (invariant : ThreadInvariant steps before.tables)
    (last : ThreadsLast (steps ++ [(sqlStore MessageType).transition before call])
      ((sqlStore MessageType).step before call).2) : SparesCreators before call := by
  obtain ⟨operation, failsIn⟩ := call
  rintro sessionId rfl through threadId row found creator
  have stored := invariant.registered threadId row found
  rw [creator] at stored
  obtain ⟨left, takes⟩ := takes_deleteSession stored
  obtain ⟨result, outcome⟩ :=
    (exists_ok_iff ⟨.write (.deleteSession sessionId), failsIn⟩ takes).mpr through
  have kept : threadKept threadId (steps ++ [(sqlStore MessageType).transition before
      ⟨.write (.deleteSession sessionId), failsIn⟩]) = true := by
    rw [threadKept_snoc, Mealy.transition, outcome]
    exact (invariant.kept threadId).mpr ⟨row, found⟩
  obtain ⟨thread, read⟩ := last.threads threadId kept
  rw [ask_getThread, Table.read_eq_some] at read
  obtain ⟨other, still, -⟩ := read
  have effect := threadEffect outcome
  generalize ((sqlStore MessageType).step before _).2.tables = after at effect still
  cases effect with
  | elsewhere _ _ harmless => cases harmless
  | deletesSession _ deleted _ done _ threads =>
      rw [threads, ← Except.ok.inj done, if_pos stored] at still
      obtain ⟨found_before, stays⟩ := HashMap.get_retain_eq_some.mp still
      obtain rfl := Option.some.inj (found.symm.trans found_before)
      exact of_decide_eq_true stays creator

/-- A new thread is read only if its time is. -/
theorem ThreadInvariant.storesReadable (last : ThreadsLast
      (steps ++ [(sqlStore MessageType).transition before call])
      ((sqlStore MessageType).step before call).2) : StoresReadable before call := by
  obtain ⟨operation, failsIn⟩ := call
  rintro thread rfl through missing present
  have absent : ¬before.tables.threads.containsKey thread.threadId = true := by
    simp [HashMap.containsKey, missing]
  have changes : before.tables.upsertThread thread.threadId (threadRow thread) =
      .ok { before.tables with
        threads := before.tables.threads.insert thread.threadId (threadRow thread) } := by
    rw [Tables.upsertThread, if_neg absent, Tables.referencesSession]
    exact if_pos present
  obtain ⟨result, outcome⟩ :=
    (exists_ok_iff ⟨.upsertThread thread, failsIn⟩ (takes_statement changes)).mpr through
  have kept : threadKept thread.threadId (steps ++ [(sqlStore MessageType).transition before
      ⟨.upsertThread thread, failsIn⟩]) = true := by
    rw [threadKept_snoc, Mealy.transition, outcome]
    simp [keepsThread]
  obtain ⟨read, answer⟩ := last.threads thread.threadId kept
  rw [ask_getThread, Table.read_eq_some] at answer
  obtain ⟨row, found, decoded⟩ := answer
  have effect := threadEffect outcome
  generalize ((sqlStore MessageType).step before _).2.tables = after at effect found
  cases effect with
  | elsewhere _ _ harmless => cases harmless
  | upsertsThread _ _ done =>
      rw [changes] at done
      rw [← Except.ok.inj done, HashMap.get_insert_self] at found
      rw [← Option.some.inj found] at decoded
      exact (exists_rowToThread.mp ⟨read, decoded⟩).2

/-- From a new store on, kept threads are read and kept participants are listed after every call
exactly as long as no creator of a thread is deleted and the time of every new thread is read. -/
theorem threadsLast_iff (calls : List (StoreCall MessageType)) :
    (∀ front, front <+: calls → ThreadsLast ((sqlStore MessageType).trace .fresh front)
      ((sqlStore MessageType).run .fresh front)) ↔
      ∀ step ∈ (sqlStore MessageType).trace .fresh calls,
        SparesCreators step.before step.event ∧ StoresReadable step.before step.event := by
  have snoc (front : List (StoreCall MessageType)) (call : StoreCall MessageType) :=
    Mealy.trace_snoc (sqlStore MessageType) Database.fresh front call
  let invariant (front : List (StoreCall MessageType)) (database : Database) : Prop :=
    ThreadInvariant ((sqlStore MessageType).trace .fresh front) database.tables
  let lasts (front : List (StoreCall MessageType)) (database : Database) : Prop :=
    ThreadsLast ((sqlStore MessageType).trace .fresh front) database
  let guard (database : Database) (call : StoreCall MessageType) : Prop :=
    SparesCreators database call ∧ StoresReadable database call
  have preserve (front : List (StoreCall MessageType)) (call : StoreCall MessageType)
      (before : invariant front ((sqlStore MessageType).run .fresh front))
      (guarded : guard ((sqlStore MessageType).run .fresh front) call) :
      invariant (front ++ [call])
        ((sqlStore MessageType).step ((sqlStore MessageType).run .fresh front) call).2 := by
    change ThreadInvariant _ _
    rw [snoc]
    exact ThreadInvariant.step before guarded.1 guarded.2
  refine @Mealy.property_iff_guarded _ _ _ _ _ _ invariant lasts guard threadInvariant_fresh
    threadInvariant_fresh.threadsLast ?_ ?_
  · intro front call back _ before
    refine ⟨fun last => ?_, fun guarded => (preserve front call before guarded).threadsLast⟩
    change ThreadsLast _ _ at last
    rw [snoc] at last
    exact ⟨ThreadInvariant.sparesCreators before last, ThreadInvariant.storesReadable last⟩
  · exact fun front call back _ before guarded => preserve front call before guarded

end Runs

/-! ## A creator who leaves -/

section Departure

attribute [local instance] Rfc3339.utc StatusText.snakeCase TimestampText.regular
attribute [local instance] MessageNames.plain

def agentSession (sessionId : String) (pid : UInt32) : Session where
  sessionId
  agentType := .codex
  pid
  startedAt := .ofSeconds 0 (Nat.le_of_ble_eq_true rfl)
  workingDir := ⟨"/"⟩
  capabilities := []
  lastHeartbeat := .ofSeconds 0 (Nat.le_of_ble_eq_true rfl)

def sharedThread : Thread where
  threadId := "thread_a"
  title := "build"
  topic := none
  createdBy := "sess_a"
  createdAt := (DateTime.ofSeconds 0 (Nat.le_of_ble_eq_true rfl)).timestamp
  status := .active

/-- Two agents share a thread, and its creator is deleted. -/
def departure : List (StoreCall String) := [
  ⟨.write (.upsertSession (agentSession "sess_a" 1)), none⟩,
  ⟨.write (.upsertSession (agentSession "sess_b" 2)), none⟩,
  ⟨.upsertThread sharedThread, none⟩,
  ⟨.addThreadParticipant "thread_a" "sess_b" sharedThread.createdAt, none⟩,
  ⟨.write (.deleteSession "sess_a"), none⟩]

theorem not_threadsLast_departure :
    ¬∀ front, front <+: departure → ThreadsLast ((sqlStore String).trace .fresh front)
      ((sqlStore String).run .fresh front) := by
  intro last
  have kept : threadKept "thread_a" ((sqlStore String).trace .fresh departure) = true := by
    decide +kernel
  obtain ⟨thread, read⟩ := (last departure (List.prefix_refl _)).threads "thread_a" kept
  have gone : ((sqlStore String).run .fresh departure).tables.threads.containsKey "thread_a" =
      false := by
    decide +kernel
  rw [ask_getThread, Table.read_eq_some] at read
  obtain ⟨row, found, -⟩ := read
  rw [HashMap.containsKey, found] at gone
  cases gone

end Departure

end TeamComm
