import TeamComm.Daemon.Db
import TeamComm.Library.Recency

/-!
# Pids in the store

`sessions_by_pid` is supposed to lead from a pid to the session which was last stored under it.  The
two statements of an upsert write it under the new pid only, and a deletion drops the entry of the
deleted session's pid whoever it leads to: the index is right exactly as long as no session changes
its pid while its old entry stands, and no session is deleted while another one shares its pid.
-/

namespace TeamComm

/-- The ids of the upserted sessions, in order. -/
def upsertedIds (writes : List StoreWrite) : List String :=
  writes.filterMap fun
    | .upsertSession session => some session.sessionId
    | _ => none

/-- What is left of the index when a session leaves. -/
private theorem get_afterDelete (tables : Tables) (id : String) (row : SessionRow)
    (column : Int64) :
    ((tables.cascadeSession id).sessionsByPid.remove row.pid).get column =
      if column = row.pid then none else (tables.sessionsByPid.get column).filter (· ≠ id) := by
  rw [HashMap.get_remove, Tables.cascadeSession, HashMap.get_retain]

section Index

variable [Rfc3339]

/-- A session is stored. -/
def Tables.Stores (tables : Tables) (session : Session) : Prop :=
  tables.sessions.get session.sessionId = some (sessionRow session)

/-- The pid index leads to stored sessions of the indexed pid, and the stored sessions which no
later one shares a pid with are found. -/
structure PidsConsistent (writes : List StoreWrite) (tables : Tables) : Prop where
  /-- Every index row has a sessions row of its pid. -/
  rows : ∀ column id, tables.sessionsByPid.get column = some id →
    ∃ session, tables.Stores session ∧ session.sessionId = id ∧ pidColumn session.pid = column
  /-- A stored session is found by its pid unless a later-upserted stored session uses the pid. -/
  found : ∀ session, tables.Stores session →
    (∀ other, tables.Stores other → other.pid = session.pid →
      other.sessionId ∉ (upsertedIds writes).since session.sessionId) →
    ∃ result, tables.ask (getSessionByPid session.pid) = .ok (some result) ∧
      result.sessionId = session.sessionId

/-- The texts of a session's two instants are read again. -/
def Readable (session : Session) : Prop :=
  (∃ instant, Rfc3339.parseFromRfc3339 (Rfc3339.toRfc3339 session.startedAt) = .ok instant) ∧
    ∃ instant, Rfc3339.parseFromRfc3339 (Rfc3339.toRfc3339 session.lastHeartbeat) = .ok instant

/-- A write leaves no index row to another pid and takes none from another session. -/
def KeepsPids (tables : Tables) : StoreWrite → Prop
  | .upsertSession session => Readable session ∧
      ∀ column, tables.sessionsByPid.get column = some session.sessionId →
        column = pidColumn session.pid
  | .deleteSession id => ∀ deleted other, tables.Stores deleted → deleted.sessionId = id →
      tables.Stores other → other.pid = deleted.pid → other.sessionId = id
  | _ => True

/-! ## Reading a session back -/

theorem readable_iff {session : Session} : Readable session ↔
    ∃ result, rowToSession session.sessionId (sessionRow session) = .ok result ∧
      result.sessionId = session.sessionId := by
  rw [rowToSession_sessionRow]
  unfold Readable parseRfc3339
  cases Rfc3339.parseFromRfc3339 (Rfc3339.toRfc3339 session.startedAt) with
  | error => simp [bind, Except.bind]
  | ok startedAt =>
      cases Rfc3339.parseFromRfc3339 (Rfc3339.toRfc3339 session.lastHeartbeat) <;>
        simp [bind, Except.bind, pure, Except.pure]

theorem ask_getSessionByPid {tables : Tables} {pid : UInt32} {result : Session} :
    tables.ask (getSessionByPid pid) = .ok (some result) ↔
      ∃ id row, tables.sessionsByPid.get (pidColumn pid) = some id ∧
        tables.sessions.get id = some row ∧ rowToSession id row = .ok result := by
  rw [getSessionByPid, Tables.ask_query]
  cases tables.sessionsByPid.get (pidColumn pid) with
  | none => simp
  | some id => simp [Table.read_eq_some]

/-- A stored session has the pid which its row says. -/
theorem Tables.Stores.pid_eq {tables : Tables} {session other : Session}
    (stored : tables.Stores session) (other_stored : tables.Stores other)
    (same : session.sessionId = other.sessionId) : session.pid = other.pid := by
  have rows : sessionRow session = sessionRow other :=
    Option.some.inj (stored.symm.trans (same ▸ other_stored))
  exact pidColumn_inj.mp (congrArg SessionRow.pid rows)

/-! ## What keeps the index right -/

/-- Every stored session can be read, and its pid leads to it or to a later session. -/
structure PidIndex (writes : List StoreWrite) (tables : Tables) : Prop where
  /-- Every sessions row was written by an upsert. -/
  written : ∀ id row, tables.sessions.get id = some row →
    ∃ session, session.sessionId = id ∧ row = sessionRow session ∧ Readable session
  /-- Every index row has a sessions row of its pid. -/
  rows : ∀ column id, tables.sessionsByPid.get column = some id →
    ∃ session, tables.Stores session ∧ session.sessionId = id ∧ pidColumn session.pid = column
  /-- The pid of a stored session leads to it or to one which was upserted later. -/
  newest : ∀ session, tables.Stores session →
    ∃ id, tables.sessionsByPid.get (pidColumn session.pid) = some id ∧
      (id = session.sessionId ∨ id ∈ (upsertedIds writes).since session.sessionId)

namespace PidIndex

variable {writes : List StoreWrite} {tables : Tables}

theorem fresh : PidIndex [] Tables.fresh where
  written _ _ found := by simp [Tables.fresh] at found
  rows _ _ found := by simp [Tables.fresh] at found
  newest _ stored := by simp [Tables.Stores, Tables.fresh] at stored

theorem consistent (index : PidIndex writes tables) : PidsConsistent writes tables where
  rows := index.rows
  found := by
    intro session stored unshadowed
    obtain ⟨id, indexed, reached⟩ := index.newest session stored
    obtain ⟨other, other_stored, rfl, same⟩ := index.rows _ id indexed
    have here : other.sessionId = session.sessionId :=
      reached.resolve_right (unshadowed other other_stored (pidColumn_inj.mp same))
    obtain ⟨original, named, row, readable⟩ := index.written _ _ stored
    obtain ⟨result, decoded, result_id⟩ := readable_iff.mp readable
    have held : tables.sessions.get other.sessionId = some (sessionRow original) := by
      rw [here, ← row]
      exact stored
    refine ⟨result, ask_getSessionByPid.mpr ⟨_, _, indexed, held, ?_⟩, result_id.trans named⟩
    rw [here, ← named, decoded]

/-- A write which leaves sessions and index alone keeps the index right. -/
theorem congr (index : PidIndex writes tables) {others : List StoreWrite} {after : Tables}
    (ids : upsertedIds others = upsertedIds writes) (sessions : after.sessions = tables.sessions)
    (byPid : after.sessionsByPid = tables.sessionsByPid) : PidIndex others after where
  written := sessions ▸ index.written
  rows := by
    intro column id indexed
    rw [byPid] at indexed
    obtain ⟨session, stored, same⟩ := index.rows column id indexed
    exact ⟨session, by rwa [Tables.Stores, sessions], same⟩
  newest := by
    intro session stored
    rw [Tables.Stores, sessions] at stored
    rw [byPid, ids]
    exact index.newest session stored

/-! One step, for the two writes which touch sessions and index. -/

theorem upsert (index : PidIndex writes tables) {session : Session}
    (keeps : KeepsPids tables (.upsertSession session)) :
    PidIndex (writes ++ [.upsertSession session])
      { tables with
        sessions := tables.sessions.insert session.sessionId (sessionRow session)
        sessionsByPid :=
          tables.sessionsByPid.insert (pidColumn session.pid) session.sessionId } where
  written := by
    intro id row found
    rw [HashMap.get_insert] at found
    split at found
    next same => exact ⟨session, same.symm, (Option.some.inj found).symm, keeps.1⟩
    next => exact index.written id row found
  rows := by
    intro column id indexed
    rw [HashMap.get_insert] at indexed
    split at indexed
    next here =>
      obtain rfl := Option.some.inj indexed
      exact ⟨session, HashMap.get_insert_self _ _ _, rfl, here.symm⟩
    next elsewhere =>
      obtain ⟨other, stored, rfl, same⟩ := index.rows column id indexed
      have different : other.sessionId ≠ session.sessionId := fun moved =>
        elsewhere (keeps.2 column (moved ▸ indexed))
      exact ⟨other, (HashMap.get_insert_of_ne _ _ different).trans stored, rfl, same⟩
  newest := by
    intro other stored
    have ids : upsertedIds (writes ++ [.upsertSession session]) =
        upsertedIds writes ++ [session.sessionId] := by simp [upsertedIds]
    rw [Tables.Stores, HashMap.get_insert] at stored
    rw [ids, List.since_snoc]
    split at stored
    next same =>
      have pids : pidColumn session.pid = pidColumn other.pid :=
        congrArg SessionRow.pid (Option.some.inj stored)
      exact ⟨session.sessionId, by rw [pids, HashMap.get_insert_self], Or.inl same.symm⟩
    next different =>
      rw [if_neg fun same => different same.symm]
      by_cases shares : pidColumn other.pid = pidColumn session.pid
      · exact ⟨session.sessionId, by rw [shares, HashMap.get_insert_self],
          Or.inr List.mem_cons_self⟩
      · obtain ⟨id, indexed, reached⟩ := index.newest other stored
        exact ⟨id, (HashMap.get_insert_of_ne _ _ shares).trans indexed,
          reached.imp_right (List.mem_cons_of_mem _)⟩

theorem delete (index : PidIndex writes tables) {id : String} {row : SessionRow}
    (held : tables.sessions.get id = some row) (keeps : KeepsPids tables (.deleteSession id)) :
    PidIndex (writes ++ [.deleteSession id])
      { tables.cascadeSession id with
        sessionsByPid := (tables.cascadeSession id).sessionsByPid.remove row.pid } where
  written := by
    intro other other_row found
    rw [Tables.cascadeSession] at found
    obtain ⟨-, found⟩ := HashMap.get_remove_eq_some.mp found
    exact index.written other other_row found
  rows := by
    intro column other indexed
    rw [get_afterDelete] at indexed
    split at indexed
    next => cases indexed
    next =>
      obtain ⟨before, different⟩ := Option.filter_eq_some_iff.mp indexed
      obtain ⟨session, stored, rfl, same⟩ := index.rows column other before
      refine ⟨session, ?_, rfl, same⟩
      rw [Tables.Stores, Tables.cascadeSession, HashMap.get_remove,
        if_neg (of_decide_eq_true different)]
      exact stored
  newest := by
    intro other stored
    have ids : upsertedIds (writes ++ [.deleteSession id]) = upsertedIds writes := by
      simp [upsertedIds]
    rw [Tables.Stores, Tables.cascadeSession, HashMap.get_remove_eq_some] at stored
    obtain ⟨different, stored⟩ := stored
    obtain ⟨deleted, named, rfl, -⟩ := index.written id row held
    have deleted_stored : tables.Stores deleted := by rwa [Tables.Stores, named]
    have apart : other.pid ≠ deleted.pid := fun shares =>
      different (keeps deleted other deleted_stored named stored shares)
    obtain ⟨newer, indexed, reached⟩ := index.newest other stored
    obtain ⟨session, session_stored, rfl, same⟩ := index.rows _ newer indexed
    have kept : session.sessionId ≠ id := fun gone =>
      apart ((pidColumn_inj.mp same).symm.trans
        (session_stored.pid_eq deleted_stored (gone.trans named.symm)))
    have elsewhere : pidColumn other.pid ≠ (sessionRow deleted).pid := fun shares =>
      apart (pidColumn_inj.mp shares)
    refine ⟨session.sessionId, ?_, ids ▸ reached⟩
    rw [get_afterDelete, if_neg elsewhere, indexed, Option.filter_some,
      if_pos (decide_eq_true kept)]

/-! The guard says no more than consistency needs. -/

theorem keeps_of_upsert {session : Session}
    (after : PidsConsistent (writes ++ [.upsertSession session])
      { tables with
        sessions := tables.sessions.insert session.sessionId (sessionRow session)
        sessionsByPid :=
          tables.sessionsByPid.insert (pidColumn session.pid) session.sessionId }) :
    KeepsPids tables (.upsertSession session) := by
  have stored := HashMap.get_insert_self tables.sessions session.sessionId (sessionRow session)
  constructor
  · have newest :
        (upsertedIds (writes ++ [.upsertSession session])).since session.sessionId = [] := by
      simp [upsertedIds, List.since_snoc]
    obtain ⟨result, asked, named⟩ := after.found session stored fun other _ _ => by simp [newest]
    obtain ⟨id, row, indexed, held, decoded⟩ := ask_getSessionByPid.mp asked
    obtain rfl := Option.some.inj ((HashMap.get_insert_self _ _ _).symm.trans indexed)
    obtain rfl := Option.some.inj (stored.symm.trans held)
    exact readable_iff.mpr ⟨result, decoded, named⟩
  · intro column indexed
    by_contra elsewhere
    obtain ⟨other, other_stored, named, same⟩ := after.rows column session.sessionId
      ((HashMap.get_insert_of_ne _ _ elsewhere).trans indexed)
    exact elsewhere (same ▸ congrArg pidColumn (other_stored.pid_eq stored named))

theorem keeps_of_delete {id : String} {row : SessionRow}
    (held : tables.sessions.get id = some row)
    (after : PidsConsistent (writes ++ [.deleteSession id])
      { tables.cascadeSession id with
        sessionsByPid := (tables.cascadeSession id).sessionsByPid.remove row.pid }) :
    KeepsPids tables (.deleteSession id) := by
  intro deleted other stored named other_stored shares
  by_contra different
  let left : Tables := { tables.cascadeSession id with
    sessionsByPid := (tables.cascadeSession id).sessionsByPid.remove row.pid }
  -- Some session of the pid is left, and the latest of them should be found.
  let passes (key : String) : Prop :=
    ∃ session, left.Stores session ∧ session.sessionId = key ∧ session.pid = deleted.pid
  have other_left : passes other.sessionId := by
    refine ⟨other, ?_, rfl, shares⟩
    change (tables.sessions.remove id).get other.sessionId = some (sessionRow other)
    rw [HashMap.get_remove, if_neg different]
    exact other_stored
  obtain ⟨latest, ⟨session, session_left, rfl, same⟩, -, none_later⟩ := List.exists_latest
    (upsertedIds (writes ++ [.deleteSession id])) other_left
  have unshadowed : ∀ another, left.Stores another → another.pid = session.pid →
      another.sessionId ∉ (upsertedIds (writes ++ [.deleteSession id])).since session.sessionId :=
    fun another another_left pids member =>
      none_later _ member ⟨another, another_left, rfl, pids.trans same⟩
  obtain ⟨result, asked, -⟩ := after.found session session_left unshadowed
  obtain ⟨_, _, indexed, -⟩ := ask_getSessionByPid.mp asked
  have removed : pidColumn session.pid = row.pid := by
    rw [← named] at held
    rw [same, ← Option.some.inj (stored.symm.trans held)]
    rfl
  rw [get_afterDelete, if_pos removed] at indexed
  cases indexed

variable [StatusText]

theorem step (index : PidIndex writes tables) {write : StoreWrite}
    (keeps : KeepsPids tables write) :
    PidIndex (writes ++ [write]) (sqliteStore.step tables write).2 := by
  cases write with
  | upsertSession session =>
      rw [step_upsertSession]
      exact index.upsert keeps
  | deleteSession id =>
      cases held : tables.sessions.get id with
      | none =>
          rw [step_deleteSession_missing held]
          exact index.congr (by simp [upsertedIds]) rfl rfl
      | some row =>
          rw [step_deleteSession held]
          exact index.delete held keeps
  | upsertReservation reservation =>
      rw [step_upsertReservation]
      split <;> exact index.congr (by simp [upsertedIds]) rfl rfl
  | deleteReservation id =>
      rw [step_deleteReservation]
      exact index.congr (by simp [upsertedIds]) rfl rfl
  | upsertLiveState live =>
      rw [step_upsertLiveState]
      split <;> exact index.congr (by simp [upsertedIds]) rfl rfl

theorem consistent_step_iff (index : PidIndex writes tables) (write : StoreWrite) :
    PidsConsistent (writes ++ [write]) (sqliteStore.step tables write).2 ↔
      KeepsPids tables write := by
  refine ⟨fun after => ?_, fun keeps => (index.step keeps).consistent⟩
  cases write with
  | upsertSession session =>
      rw [step_upsertSession] at after
      exact keeps_of_upsert after
  | deleteSession id =>
      cases held : tables.sessions.get id with
      | none =>
          rintro deleted _ stored rfl _ _
          exact absurd (held.symm.trans stored) (by simp)
      | some row =>
          rw [step_deleteSession held] at after
          exact keeps_of_delete held after
  | _ => trivial

end PidIndex

/-- The pid index of the store is right throughout a run exactly when no upsert leaves an index row
to another pid, or a session which cannot be read, and no deletion takes the pid of another stored
session. -/
theorem pidsConsistent_iff [StatusText] {writes : List StoreWrite} :
    (∀ front, front <+: writes → PidsConsistent front (sqliteStore.run Tables.fresh front)) ↔
      ∀ step ∈ sqliteStore.trace Tables.fresh writes, KeepsPids step.before step.event := by
  refine Mealy.property_iff_guarded PidIndex.fresh PidIndex.fresh.consistent ?_ ?_
  · exact fun front write back _ index => index.consistent_step_iff write
  · exact fun front write back _ index keeps => index.step keeps

end Index

/-! ## Two processes, one pid -/

attribute [local instance] Rfc3339.utc StatusText.snakeCase

/-- A session of a pid. -/
def sessionUnder (pid : UInt32) (sessionId : String) : Session where
  sessionId
  agentType := .codex
  pid
  startedAt := .ofSeconds 0 (by decide)
  workingDir := ⟨"/"⟩
  capabilities := []
  lastHeartbeat := .ofSeconds 0 (by decide)

/-- The pid of a session which died without leaving is used again; then the old session is
deleted. -/
def reusedPidWrites : List StoreWrite := [
  .upsertSession (sessionUnder 7 "old"), .upsertSession (sessionUnder 7 "new"),
  .deleteSession "old"]

/-- A session comes back under another pid. -/
def movedPidWrites : List StoreWrite := [
  .upsertSession (sessionUnder 7 "sess"), .upsertSession (sessionUnder 8 "sess")]

/-- The stored session of a reused pid is lost, and a moved session stays reachable under its old
pid. -/
theorem not_pidsConsistent_reusedPid :
    ¬PidsConsistent reusedPidWrites (sqliteStore.run Tables.fresh reusedPidWrites) ∧
      ¬PidsConsistent movedPidWrites (sqliteStore.run Tables.fresh movedPidWrites) := by
  constructor
  · intro consistent
    have stored : (sqliteStore.run Tables.fresh reusedPidWrites).Stores (sessionUnder 7 "new") := by
      unfold Tables.Stores
      decide +kernel
    have newest : (upsertedIds reusedPidWrites).since "new" = [] := by decide
    obtain ⟨result, asked, -⟩ := consistent.found _ stored fun other _ _ => by
      change other.sessionId ∉ (upsertedIds reusedPidWrites).since "new"
      simp [newest]
    obtain ⟨id, _, indexed, -⟩ := ask_getSessionByPid.mp asked
    have gone : (sqliteStore.run Tables.fresh reusedPidWrites).sessionsByPid.get
        (pidColumn (sessionUnder 7 "new").pid) = none := by
      decide +kernel
    cases gone.symm.trans indexed
  · intro consistent
    have stale : (sqliteStore.run Tables.fresh movedPidWrites).sessionsByPid.get (pidColumn 7) =
        some "sess" := by
      decide +kernel
    obtain ⟨session, stored, named, pid⟩ := consistent.rows _ _ stale
    have moved : ((sqliteStore.run Tables.fresh movedPidWrites).sessions.get "sess").map
        SessionRow.pid = some (pidColumn 8) := by
      decide +kernel
    rw [← named, stored] at moved
    have same := pidColumn_inj.mp (pid.symm.trans (Option.some.inj moved))
    revert same
    decide

end TeamComm
