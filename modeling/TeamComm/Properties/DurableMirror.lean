import TeamComm.Daemon.WriteThrough

/-!
# The durable mirror

The store next to the daemon's state, each successful request followed by its counterpart.  Both
levels store and drop alike except when a session leaves: the store's foreign keys take along
everything which refers to it, the daemon forgets the session and its pid entry only.  So the store
mirrors the state exactly as long as nothing else refers to a session when it leaves.
-/

namespace TeamComm

open Json (Value)

/-- Nothing but its own pid entry refers to a session. -/
def Unreferenced (memory : AppStateInner) (id : String) (session : Session) : Prop :=
  (∀ reservation ∈ memory.reservations.values, reservation.sessionId ≠ id) ∧
    memory.liveState.get id = none ∧
    ∀ entry ∈ memory.sessionsByPid.entries, entry.2 = id → entry.1 = session.pid

instance (memory : AppStateInner) (id : String) (session : Session) :
    Decidable (Unreferenced memory id session) :=
  inferInstanceAs (Decidable (_ ∧ _ ∧ _))

/-- The session which a call asks to remove. -/
def leaver (call : Call) : Option String :=
  match Request.read call.method call.params with
  | .ok (.sessionDeregister id) => some id
  | _ => none

theorem leaver_eq_some {call : Call} {id : String} : leaver call = some id ↔
    Request.read call.method call.params = .ok (.sessionDeregister id) := by
  unfold leaver
  split
  next named read => simp [read]
  next other => simpa using other id

/-- A session which leaves is unreferenced. -/
def LeavesUnreferenced (memory : AppStateInner) (call : Call) : Prop :=
  ∀ id ∈ leaver call, ∀ session ∈ memory.sessions.get id, Unreferenced memory id session

instance (memory : AppStateInner) (call : Call) : Decidable (LeavesUnreferenced memory call) :=
  inferInstanceAs (Decidable (∀ id ∈ leaver call, ∀ session ∈ memory.sessions.get id, _))

/-- The instants which a write stores. -/
def StoreWrite.instants : StoreWrite → List DateTime
  | .upsertSession session => [session.startedAt, session.lastHeartbeat]
  | .upsertReservation reservation => [reservation.acquiredAt, reservation.expiresAt]
  | .upsertLiveState live => [live.lastHeartbeat]
  | _ => []

/-! ## State and store side by side -/

/-- The daemon's state and the tables of its store. -/
structure Mirrored where
  /-- The in-memory state. -/
  memory : AppStateInner
  /-- The tables. -/
  tables : Tables

/-- An empty state and an empty store. -/
def Mirrored.fresh : Mirrored := ⟨newState, Tables.fresh⟩

section Mirror

variable [Chrono] [Rfc3339] [StatusText]

/-- The daemon, with every successful request written through to the store. -/
def mirrored : Mealy Mirrored Call (Except Failure Value × Except SqlError PUnit) where
  step state call :=
    let (reply, memory) := daemon.step state.memory call
    match writeThrough state.memory call with
    | none => ((reply, .ok ⟨⟩), ⟨memory, state.tables⟩)
    | some write =>
        let (result, tables) := sqliteStore.step state.tables write
        ((reply, result), ⟨memory, tables⟩)

/-- Read as maps, the tables equal the maps of the state. -/
structure Mirrors (state : Mirrored) : Prop where
  sessions : Table.Encodes rowToSession state.tables.sessions state.memory.sessions
  sessionsByPid :
    Table.EncodesUnder pidColumn state.tables.sessionsByPid state.memory.sessionsByPid
  reservations : Table.Encodes rowToReservation state.tables.reservations state.memory.reservations
  liveState : Table.Encodes rowToLiveState state.tables.liveState state.memory.liveState

/-- Every counterpart succeeds, and the store mirrors the state whenever a request is through. -/
def DurableMirror (calls : List Call) : Prop :=
  (∀ step ∈ mirrored.trace Mirrored.fresh calls, step.output.2 = .ok ⟨⟩) ∧
    mirrored.Always Mirrors Mirrored.fresh calls

namespace Mirrors

variable {state : Mirrored}

/-! ## What a restarted daemon reads -/

section Reading

omit [Chrono]

theorem getSession_eq (mirrors : Mirrors state) (id : String) :
    state.tables.ask (getSession id) = .ok (state.memory.sessions.get id) := by
  rw [getSession, Tables.ask_query, mirrors.sessions id]

theorem getSessionByPid_eq (mirrors : Mirrors state) (pid : UInt32) :
    state.tables.ask (getSessionByPid pid) = .ok ((sessionOf state.memory pid).map Prod.snd) := by
  rw [getSessionByPid, Tables.ask_query, mirrors.sessionsByPid.get_encode pidColumn_injective,
    sessionOf]
  cases state.memory.sessionsByPid.get pid with
  | none => rfl
  | some id =>
      simp only [mirrors.sessions id, Option.bind_some, Option.map_map]
      cases state.memory.sessions.get id <;> rfl

theorem getLiveState_eq (mirrors : Mirrors state) (id : String) :
    state.tables.ask (getLiveState id) = .ok (state.memory.liveState.get id) := by
  rw [getLiveState, Tables.ask_query, mirrors.liveState id]

end Reading

/-! ## One step -/

omit [Chrono] in
/-- A write follows what a call does which deregisters nobody. -/
theorem change (mirrors : Mirrors state) {after : AppStateInner} {write : StoreWrite}
    (changed : Change state.memory after (some write))
    (statuses : ∀ status, StatusText.parse (StatusText.asStr status) = some status)
    (texts : ∀ instant ∈ write.instants, Rfc3339.RoundTrips instant) :
    ∃ tables, sqliteStore.step state.tables write = (.ok ⟨⟩, tables) ∧ Mirrors ⟨after, tables⟩ := by
  cases changed with
  | registers session =>
      have decoded := rowToSession_of_roundTrips
        (texts session.startedAt (by simp [StoreWrite.instants]))
        (texts session.lastHeartbeat (by simp [StoreWrite.instants]))
      exact ⟨_, step_upsertSession session state.tables, mirrors.sessions.insert decoded,
        mirrors.sessionsByPid.insert pidColumn_injective _ _, mirrors.reservations,
        mirrors.liveState⟩
  | refreshes session indexed =>
      have decoded := rowToSession_of_roundTrips
        (texts session.startedAt (by simp [StoreWrite.instants]))
        (texts session.lastHeartbeat (by simp [StoreWrite.instants]))
      exact ⟨_, step_upsertSession session state.tables, mirrors.sessions.insert decoded,
        mirrors.sessionsByPid.insert_indexed indexed, mirrors.reservations, mirrors.liveState⟩
  | claims reservation registered =>
      have decoded := rowToReservation_of_roundTrips
        (texts reservation.acquiredAt (by simp [StoreWrite.instants]))
        (texts reservation.expiresAt (by simp [StoreWrite.instants]))
      have present : state.tables.sessions.containsKey reservation.sessionId = true :=
        (mirrors.sessions.containsKey _).trans registered
      refine ⟨_, (step_upsertReservation reservation state.tables).trans (if_pos present), ?_⟩
      exact ⟨mirrors.sessions, mirrors.sessionsByPid, mirrors.reservations.insert decoded,
        mirrors.liveState⟩
  | releases id =>
      exact ⟨_, step_deleteReservation id state.tables, mirrors.sessions, mirrors.sessionsByPid,
        mirrors.reservations.remove id, mirrors.liveState⟩
  | publishes live registered =>
      have decoded := rowToLiveState_of_roundTrips (statuses live.status)
        (texts live.lastHeartbeat (by simp [StoreWrite.instants]))
      have present : state.tables.sessions.containsKey live.sessionId = true :=
        (mirrors.sessions.containsKey _).trans registered
      refine ⟨_, (step_upsertLiveState live state.tables).trans (if_pos present), ?_⟩
      exact ⟨mirrors.sessions, mirrors.sessionsByPid, mirrors.reservations,
        mirrors.liveState.insert decoded⟩

omit [Chrono] in
/-- The cascade of a deleted session deletes no reservation exactly when it had none. -/
private theorem reservations_cascade_iff (mirrors : Mirrors state) (id : String) :
    Table.Encodes rowToReservation
        (state.tables.reservations.retain fun _ row => row.sessionId ≠ id)
        state.memory.reservations ↔
      ∀ reservation ∈ state.memory.reservations.values, reservation.sessionId ≠ id := by
  rw [mirrors.reservations.retain_iff]
  constructor
  · intro kept reservation member
    obtain ⟨key, found⟩ := HashMap.mem_values.mp member
    obtain ⟨row, held, decoded⟩ := mirrors.reservations.stored found
    rw [sessionId_of_rowToReservation decoded]
    exact of_decide_eq_true (kept key row held)
  · intro free key row held
    obtain ⟨reservation, found, decoded⟩ := mirrors.reservations.decoded held
    have different := free reservation (HashMap.mem_values.mpr ⟨key, found⟩)
    rw [sessionId_of_rowToReservation decoded] at different
    exact decide_eq_true different

omit [Chrono] in
/-- The cascade of a deleted session deletes no live state exactly when it had none. -/
private theorem liveState_cascade_iff (mirrors : Mirrors state) (id : String) :
    Table.Encodes rowToLiveState (state.tables.liveState.retain fun owner _ => owner ≠ id)
        state.memory.liveState ↔
      state.memory.liveState.get id = none := by
  rw [mirrors.liveState.retain_iff, ← mirrors.liveState.get_eq_none]
  constructor
  · intro kept
    by_contra held
    obtain ⟨row, held⟩ := Option.ne_none_iff_exists'.mp held
    exact of_decide_eq_true (kept id row held) rfl
  · rintro absent key row held
    refine decide_eq_true ?_
    rintro rfl
    rw [absent] at held
    cases held

omit [Chrono] in
/-- A deletion follows a deregistration exactly when nothing else refers to the session. -/
theorem deregister (mirrors : Mirrors state) (mirror : Indexed state.memory) {id : String}
    {session : Session} (stored : state.memory.sessions.get id = some session) :
    ∃ tables, sqliteStore.step state.tables (.deleteSession id) = (.ok ⟨⟩, tables) ∧
      (Mirrors ⟨{ state.memory with
          sessions := state.memory.sessions.remove id
          sessionsByPid := state.memory.sessionsByPid.remove session.pid }, tables⟩ ↔
        Unreferenced state.memory id session) := by
  obtain ⟨row, held, decoded⟩ := mirrors.sessions.stored stored
  have pids_iff := mirrors.sessionsByPid.delete_iff columnPid_pidColumn (mirror.indexed stored)
    (pid_of_rowToSession decoded)
  refine ⟨_, step_deleteSession held, ?_, ?_⟩
  · intro after
    refine ⟨(mirrors.reservations_cascade_iff id).mp after.reservations,
      (mirrors.liveState_cascade_iff id).mp after.liveState, ?_⟩
    rintro ⟨pid, owner⟩ member rfl
    exact pids_iff.mp after.sessionsByPid pid (HashMap.mem_entries.mp member)
  · rintro ⟨released, unpublished, only⟩
    exact ⟨mirrors.sessions.remove id,
      pids_iff.mpr fun pid leads => only ⟨pid, id⟩ (HashMap.mem_entries.mpr leads) rfl,
      (mirrors.reservations_cascade_iff id).mpr released,
      (mirrors.liveState_cascade_iff id).mpr unpublished⟩

/-- What one call does to the store: its write succeeds, and the store goes on mirroring the state
exactly when nobody leaves who is referred to. -/
def Follows (state : Mirrored) (call : Call) : Prop :=
  (mirrored.step state call).1.2 = .ok ⟨⟩ ∧
    (Mirrors (mirrored.step state call).2 ↔ LeavesUnreferenced state.memory call)

private theorem follows_of_leaver (mirrors : Mirrors state) (mirror : Indexed state.memory)
    {call : Call} {id : String} (leaves : leaver call = some id) : Follows state call := by
  have read := leaver_eq_some.mp leaves
  have step := Request.step_of_read state.memory read
  have write : writeThrough state.memory call = some (.deleteSession id) :=
    writeThrough_deregister read
  unfold Follows
  cases stored : state.memory.sessions.get id with
  | some session =>
      obtain ⟨tables, deleted, mirrors_iff⟩ := mirrors.deregister mirror stored
      simp only [Request.perform, stored] at step
      simp only [mirrored, step, write, deleted]
      refine ⟨trivial, mirrors_iff.trans ?_⟩
      constructor
      · rintro unreferenced other named another found
        obtain rfl := Option.some.inj (leaves.symm.trans named)
        obtain rfl := Option.some.inj (stored.symm.trans found)
        exact unreferenced
      · exact fun unreferenced => unreferenced id leaves session stored
  | none =>
      simp only [Request.perform, stored] at step
      have missing := mirrors.sessions.get_eq_none.mpr stored
      simp only [mirrored, step, write, step_deleteSession_missing missing]
      refine ⟨trivial, iff_of_true mirrors ?_⟩
      rintro other named another found
      obtain rfl := Option.some.inj (leaves.symm.trans named)
      cases stored.symm.trans found

private theorem follows_of_stays (mirrors : Mirrors state) (mirror : Indexed state.memory)
    {call : Call} (stays : leaver call = none)
    (statuses : ∀ status, StatusText.parse (StatusText.asStr status) = some status)
    (texts : ∀ write ∈ writeThrough state.memory call, ∀ instant ∈ write.instants,
      Rfc3339.RoundTrips instant) : Follows state call := by
  have unreferenced : LeavesUnreferenced state.memory call := fun id named => by
    rw [stays] at named
    cases named
  have nobody : ∀ id, Request.read call.method call.params ≠ .ok (.sessionDeregister id) := by
    intro id read
    rw [leaver_eq_some.mpr read] at stays
    cases stays
  have changed := change_step mirror nobody
  unfold Follows
  cases written : writeThrough state.memory call with
  | none =>
      rw [written] at changed
      simp only [mirrored, written]
      generalize (daemon.step state.memory call).2 = after at changed
      cases changed with
      | quiet sessions sessionsByPid reservations liveState =>
          refine ⟨trivial, iff_of_true ⟨?_, ?_, ?_, ?_⟩ unreferenced⟩
          · exact sessions ▸ mirrors.sessions
          · exact sessionsByPid ▸ mirrors.sessionsByPid
          · exact reservations ▸ mirrors.reservations
          · exact liveState ▸ mirrors.liveState
  | some write =>
      rw [written] at changed
      obtain ⟨tables, stored, after⟩ := mirrors.change changed statuses (texts write written)
      simp only [mirrored, written, stored]
      exact ⟨trivial, iff_of_true after unreferenced⟩

theorem follows (mirrors : Mirrors state) (mirror : Indexed state.memory) (call : Call)
    (statuses : ∀ status, StatusText.parse (StatusText.asStr status) = some status)
    (texts : ∀ write ∈ writeThrough state.memory call, ∀ instant ∈ write.instants,
      Rfc3339.RoundTrips instant) : Follows state call := by
  cases leaves : leaver call with
  | none => exact mirrors.follows_of_stays mirror leaves statuses texts
  | some id => exact mirrors.follows_of_leaver mirror leaves

end Mirrors

/-! ## Runs -/

omit [Chrono] in
theorem mirrors_fresh : Mirrors Mirrored.fresh where
  sessions := Table.Encodes.empty
  sessionsByPid := Table.EncodesUnder.empty
  reservations := Table.Encodes.empty
  liveState := Table.Encodes.empty

private theorem memory_step (calls : List Call) :
    ∀ step ∈ mirrored.trace Mirrored.fresh calls,
      (daemon.step (Mirrored.memory step.before) (Mealy.Transition.event step)).2 =
        Mirrored.memory step.after := by
  intro step member
  obtain ⟨front, call, back, rfl, rfl⟩ := Mealy.mem_trace.mp member
  simp only [Mealy.transition, mirrored]
  split <;> rfl

/-- The daemon runs as it does without a store. -/
theorem run_memory (calls : List Call) :
    (mirrored.run Mirrored.fresh calls).memory = daemon.run newState calls := by
  have simulated := Mealy.run_simulation (memory_step calls)
  rw [Mealy.trace_map_event] at simulated
  exact simulated.symm

theorem trace_memory (calls : List Call) :
    daemon.trace newState calls = (mirrored.trace Mirrored.fresh calls).map fun step =>
      daemon.transition step.before.memory step.event := by
  have simulated := Mealy.trace_simulation (memory_step calls)
  rw [Mealy.trace_map_event] at simulated
  exact simulated

/-- The store mirrors the daemon's state throughout a run exactly when nobody is referred to who
leaves. -/
theorem durableMirror_iff {calls : List Call}
    (statuses : ∀ status, StatusText.parse (StatusText.asStr status) = some status)
    (texts : ∀ step ∈ daemon.trace newState calls, ∀ write ∈ writeThrough step.before step.event,
      ∀ instant ∈ write.instants, Rfc3339.RoundTrips instant) :
    DurableMirror calls ↔
      ∀ step ∈ daemon.trace newState calls, LeavesUnreferenced step.before step.event := by
  rw [trace_memory, List.forall_mem_map] at texts ⊢
  have step_iff : ∀ step ∈ mirrored.trace Mirrored.fresh calls, Mirrors step.before →
      step.output.2 = .ok ⟨⟩ ∧
        (Mirrors step.after ↔ LeavesUnreferenced step.before.memory step.event) := by
    intro step member mirrors
    have storable := texts step member
    obtain ⟨front, call, back, rfl, rfl⟩ := Mealy.mem_trace.mp member
    have indexed : Indexed (mirrored.run Mirrored.fresh front).memory := by
      rw [run_memory]
      exact indexed_run front
    exact mirrors.follows indexed call statuses storable
  let guard (state : Mirrored) (call : Call) : Prop := LeavesUnreferenced state.memory call
  have always_iff : mirrored.Always Mirrors Mirrored.fresh calls ↔
      ∀ step ∈ mirrored.trace Mirrored.fresh calls, guard step.before step.event :=
    Mealy.always_iff_guarded mirrors_fresh fun step member before => (step_iff step member before).2
  constructor
  · exact fun mirror => always_iff.mp mirror.2
  · intro guarded
    have always := always_iff.mpr guarded
    refine ⟨fun step member => (step_iff step member ?_).1, always⟩
    obtain ⟨front, call, back, rfl, rfl⟩ := Mealy.mem_trace.mp member
    exact always front (List.prefix_append _ _)

end Mirror

/-! ## With and without a reservation left behind -/

attribute [local instance] Chrono.utc Rfc3339.utc StatusText.snakeCase

/-- A session is refreshed, claims and releases a file, and leaves; another one publishes its
state. -/
def tidyCalls : List Call := [
  ⟨"session.register", .object [("pid", .u64 1)], .ofSeconds 0 "a"⟩,
  ⟨"session.register", .object [("pid", .u64 2)], .ofSeconds 1 "b"⟩,
  ⟨"session.heartbeat", .object [("session_id", .string "sess_a")], .ofSeconds 2 "c"⟩,
  ⟨"reservation.claim", .object [("session_id", .string "sess_a"), ("path", .string "/src/lib.rs")],
    .ofSeconds 3 "d"⟩,
  ⟨"state.set", .object [("session_id", .string "sess_b"), ("status", .string "working")],
    .ofSeconds 4 "e"⟩,
  ⟨"reservation.release", .object [("reservation_id", .string "resv_d")], .ofSeconds 5 "f"⟩,
  ⟨"session.deregister", .object [("session_id", .string "sess_a")], .ofSeconds 6 "g"⟩]

theorem durableMirror_tidyCalls : DurableMirror tidyCalls := by
  refine (durableMirror_iff ?_ ?_).mpr ?_
  · intro status
    cases status <;> decide
  · decide +kernel
  · decide +kernel

/-- Register, claim a file, deregister. -/
def untidyCalls : List Call := [
  ⟨"session.register", .object [("pid", .u64 1)], .ofSeconds 0 "a"⟩,
  ⟨"reservation.claim", .object [("session_id", .string "sess_a"), ("path", .string "/src/lib.rs")],
    .ofSeconds 1 "b"⟩,
  ⟨"session.deregister", .object [("session_id", .string "sess_a")], .ofSeconds 2 "c"⟩]

/-- The store drops the reservation of a session which leaves, the daemon keeps it. -/
theorem not_durableMirror_untidyCalls : ¬DurableMirror untidyCalls := by
  intro mirror
  have mirrors := mirror.2 untidyCalls (List.prefix_refl _)
  have dropped : (mirrored.run Mirrored.fresh untidyCalls).tables.reservations.get "resv_b" =
      none := by
    decide +kernel
  have kept : (mirrored.run Mirrored.fresh untidyCalls).memory.reservations.containsKey "resv_b" =
      true := by
    decide +kernel
  rw [← mirrors.reservations.containsKey, HashMap.containsKey, dropped] at kept
  cases kept

end TeamComm
