import TeamComm.Daemon.Effect

/-!
# Sessions and the pid index

In every reachable state the session map and the pid index are inverse to each other, so a pid has
at most one session, deregistering a session never touches the index entry of another one, and
registering never finds an index entry without a session.
-/

namespace TeamComm

open Json (Value)

section Invariant

variable [Chrono]

/-- Sessions stand under their own ids and are mirrored by the pid index. -/
structure SessionIndex (state : AppStateInner) : Prop where
  /-- A session stands under its own id. -/
  named : ∀ {id session}, state.sessions.get id = some session → session.sessionId = id
  /-- The pid index is the inverse of the session map. -/
  mirror : ReverseIndex Session.pid state.sessions state.sessionsByPid

private theorem minted_step {spent : List String} {state : AppStateInner} {call : Call}
    (minted : Minted Env.mintSessionId spent state.sessions) :
    Minted Env.mintSessionId (spent ++ [call.env.uuid]) (daemon.step state call).2.sessions := by
  have earlier := minted.spend call.env.uuid
  have effect := daemon_effect call state
  generalize daemon.step state call = result at effect
  cases effect with
  | registers session _ minted_now _ => exact earlier.insert ⟨call.env, by simp, minted_now⟩ _
  | refreshes id session _ _ stored => exact earlier.insert (earlier _ _ stored) _
  | deregisters => exact earlier.remove _
  | _ => exact earlier

private theorem index_step {spent : List String} {state : AppStateInner} {call : Call}
    (minted : Minted Env.mintSessionId spent state.sessions) (index : SessionIndex state)
    (fresh : call.env.uuid ∉ spent) : SessionIndex (daemon.step state call).2 := by
  have effect := daemon_effect call state
  generalize daemon.step state call = result at effect
  cases effect with
  | registers session _ minted_now unindexed =>
      have new_id : state.sessions.get session.sessionId = none := by
        rw [minted_now]
        exact minted.absent fresh Env.mintSessionId_inj.mp
      have new_pid : state.sessionsByPid.get session.pid = none := by
        cases found : state.sessionsByPid.get session.pid with
        | none => rfl
        | some id =>
            obtain ⟨stored, stored_found, -⟩ := index.mirror.stored found
            rw [unindexed id found] at stored_found
            cases stored_found
      refine ⟨?_, index.mirror.insert_new new_id new_pid⟩
      intro id stored found
      rw [HashMap.get_insert] at found
      split at found
      next same => rw [same, ← Option.some.inj found]
      next => exact index.named found
  | refreshes id session _ _ stored =>
      refine ⟨?_, index.mirror.update stored rfl⟩
      intro other _ found
      rw [HashMap.get_insert] at found
      split at found
      next same => rw [same, ← Option.some.inj found, ← index.named stored]
      next => exact index.named found
  | deregisters id session _ _ stored =>
      refine ⟨?_, index.mirror.remove stored⟩
      intro other _ found
      obtain ⟨-, found⟩ := HashMap.get_remove_eq_some.mp found
      exact index.named found
  | _ => exact ⟨index.named, index.mirror⟩

private theorem sessions_run {calls : List Call} (fresh : FreshIds calls) :
    Minted Env.mintSessionId (calls.map fun call => call.env.uuid)
        (daemon.run newState calls).sessions ∧
      SessionIndex (daemon.run newState calls) := by
  let holds (spent : List String) (state : AppStateInner) : Prop :=
    Minted Env.mintSessionId spent state.sessions ∧ SessionIndex state
  suffices reached : holds (calls.map fun call => call.env.uuid) (daemon.run newState calls) from
    reached
  refine Mealy.invariant_fresh ?_ ?_ fresh
  · exact ⟨Minted.empty, ⟨fun found => by simp [newState] at found, ReverseIndex.empty⟩⟩
  · exact fun spent state call before new =>
      ⟨minted_step before.1, index_step before.1 before.2 new⟩

/-- Session ids were minted. -/
theorem sessionsMinted_run {calls : List Call} (fresh : FreshIds calls) :
    Minted Env.mintSessionId (calls.map fun call => call.env.uuid)
      (daemon.run newState calls).sessions :=
  (sessions_run fresh).1

/-- Sessions and pid index match after every run. -/
theorem sessionIndex_run {calls : List Call} (fresh : FreshIds calls) :
    SessionIndex (daemon.run newState calls) :=
  (sessions_run fresh).2

/-! ## What clients observe -/

/-- The pids in an answer to `session.list`. -/
def listedPids (reply : Value) : List UInt64 :=
  (reply.doc.asArray.getD []).filterMap fun item => (item.member "pid").bind Json.asU64

theorem listedPids_sessions (sessions : List Session) :
    listedPids (.array (sessions.map Session.toValue)) =
      sessions.map fun session => session.pid.toUInt64 := by
  have pid_of (session : Session) :
      (session.toValue.doc.member "pid").bind Json.asU64 = some session.pid.toUInt64 := by
    change (session.toValue.get "pid").bind Json.asU64 = _
    simp [Session.toValue, Value.get_object, Json.lookup_cons_eq_ite]
  simp [listedPids, Value.array, Json.asArray, List.filterMap_map, Function.comp_def, pid_of]

theorem SessionIndex.listedPids_nodup {state : AppStateInner} (index : SessionIndex state)
    {params : Value} {env : Env} {reply : Value}
    (answered : (daemon.step state ⟨"session.list", params, env⟩).1 = .ok reply) :
    (listedPids reply).Nodup := by
  have listed : .array ((env.order.arrange state.sessions.values).map Session.toValue) = reply :=
    Except.ok.inj answered
  have distinct : (state.sessions.values.map fun session => session.pid.toUInt64).Nodup :=
    HashMap.values_map_nodup fun found other_found same =>
      index.mirror.determines found other_found (UInt32.toUInt64_inj.mp same)
  rw [← listed, listedPids_sessions]
  exact ((env.order.perm _).map _).nodup_iff.mpr distinct

theorem SessionIndex.deregister_other {state : AppStateInner} (index : SessionIndex state)
    {params : Value} {env : Env} {id : String} (named : getStr params "session_id" = some id)
    {pid : UInt32} {other : String} (different : other ≠ id)
    (indexed : state.sessionsByPid.get pid = some other) :
    (daemon.step state ⟨"session.deregister", params, env⟩).2.sessionsByPid.get pid =
      some other := by
  have effect := daemon_effect ⟨"session.deregister", params, env⟩ state
  generalize daemon.step state ⟨"session.deregister", params, env⟩ = result at effect
  cases effect with
  | deregisters removed session _ removed_named stored =>
      obtain rfl : removed = id := Option.some.inj (removed_named.symm.trans named)
      have kept : pid ≠ session.pid := by
        rintro rfl
        exact different (Option.some.inj (indexed.symm.trans (index.mirror.indexed stored)))
      rw [HashMap.get_remove, if_neg kept, indexed]
  | registers _ method =>
      exact absurd (show "session.deregister" = "session.register" from method) (by decide)
  | _ => exact indexed

/-- Session map and pid index are inverse in every reachable state, with what follows for listing,
deregistering and registering. -/
theorem session_pid_bijection {calls : List Call} (fresh : FreshIds calls) :
    let state := daemon.run newState calls
    (∀ id session, state.sessions.get id = some session → session.sessionId = id) ∧
    (∀ pid id, state.sessionsByPid.get pid = some id →
      ∃ session, state.sessions.get id = some session ∧ session.pid = pid) ∧
    (∀ id session, state.sessions.get id = some session →
      state.sessionsByPid.get session.pid = some id) ∧
    (∀ id other session another, state.sessions.get id = some session →
      state.sessions.get other = some another → session.pid = another.pid → id = other) ∧
    (∀ params env reply, (daemon.step state ⟨"session.list", params, env⟩).1 = .ok reply →
      (listedPids reply).Nodup) ∧
    (∀ params env id, getStr params "session_id" = some id → ∀ pid other, other ≠ id →
      state.sessionsByPid.get pid = some other →
      (daemon.step state ⟨"session.deregister", params, env⟩).2.sessionsByPid.get pid =
        some other) ∧
    ∀ pid existing, state.sessionsByPid.get pid = some existing →
      state.sessions.get existing ≠ none := by
  have index := sessionIndex_run fresh
  refine ⟨fun _ _ => index.named, fun _ _ => index.mirror.stored, fun _ _ => index.mirror.indexed,
    fun _ _ _ _ => index.mirror.determines, fun _ _ _ => index.listedPids_nodup,
    fun _ _ _ named _ _ => index.deregister_other named, ?_⟩
  intro pid existing indexed missing
  obtain ⟨session, stored, -⟩ := index.mirror.stored indexed
  rw [missing] at stored
  cases stored

end Invariant

attribute [local instance] Chrono.utc

theorem session_pid_bijection_two_agents :
    ∃ session, (daemon.run newState [
        ⟨"session.register", .object [("pid", .u64 1)], .ofSeconds 0 "a"⟩,
        ⟨"session.register", .object [("pid", .u64 2)], .ofSeconds 1 "b"⟩]).sessions.get "sess_b" =
      some session ∧ session.pid = 2 :=
  (session_pid_bijection (by decide)).2.1 2 "sess_b" (by decide +kernel)

end TeamComm
