import TeamComm.Daemon.Effect

/-!
# Referential integrity

Reservations and live states are supposed to belong to registered sessions.  Only deregistration
can orphan them: it removes the session and its pid entry but nothing else, so integrity lasts
exactly as long as each deregistered session has released its reservations and published nothing.
-/

namespace TeamComm

open Json (Value)

/-- Every reservation and every live state belongs to a registered session. -/
structure Integrity (state : AppStateInner) : Prop where
  reservations : ∀ id reservation, state.reservations.get id = some reservation →
    state.sessions.containsKey reservation.sessionId = true
  liveState : ∀ id live, state.liveState.get id = some live → state.sessions.containsKey id = true

/-- A deregistration names a session without reservations and without live state. -/
def OrphansNothing (state : AppStateInner) (call : Call) : Prop :=
  call.method = "session.deregister" → ∀ id, getStr call.params "session_id" = some id →
    (∀ key reservation, state.reservations.get key = some reservation →
      reservation.sessionId ≠ id) ∧
    state.liveState.get id = none

theorem integrity_newState : Integrity newState :=
  ⟨fun _ _ found => by simp [newState] at found, fun _ _ found => by simp [newState] at found⟩

private theorem integrity_deregister {state : AppStateInner} (integrity : Integrity state)
    {id : String} (session : Session) :
    Integrity { state with
        sessions := state.sessions.remove id
        sessionsByPid := state.sessionsByPid.remove session.pid } ↔
      (∀ key reservation, state.reservations.get key = some reservation →
        reservation.sessionId ≠ id) ∧
      state.liveState.get id = none := by
  constructor
  · intro after
    constructor
    · intro key reservation found
      exact ((HashMap.containsKey_remove _ _ _).mp (after.reservations key reservation found)).1
    · cases found : state.liveState.get id with
      | none => rfl
      | some live =>
          exact absurd rfl ((HashMap.containsKey_remove _ _ _).mp (after.liveState id live found)).1
  · rintro ⟨released, unpublished⟩
    constructor
    · intro key reservation found
      exact (HashMap.containsKey_remove _ _ _).mpr
        ⟨released key reservation found, integrity.reservations key reservation found⟩
    · intro other live found
      refine (HashMap.containsKey_remove _ _ _).mpr ⟨?_, integrity.liveState other live found⟩
      rintro rfl
      exact absurd (unpublished.symm.trans found) (by simp)

section Steps

variable [Chrono]

/-- A step keeps integrity exactly when it orphans nothing. -/
theorem integrity_step {state : AppStateInner} (integrity : Integrity state) (call : Call) :
    Integrity (daemon.step state call).2 ↔ OrphansNothing state call := by
  have effect := daemon_effect call state
  constructor
  · intro after method id named
    cases found : state.sessions.get id with
    | some session =>
        rw [step_deregister method named found] at after
        exact (integrity_deregister integrity session).mp after
    | none =>
        -- Before the call nothing belonged to an unknown session.
        have unknown : ¬state.sessions.containsKey id = true := by
          simp [HashMap.containsKey, found]
        constructor
        · rintro key reservation stored rfl
          exact unknown (integrity.reservations key reservation stored)
        · cases published : state.liveState.get id with
          | none => rfl
          | some live => exact absurd (integrity.liveState id live published) unknown
  · intro orphans
    generalize daemon.step state call = result at effect
    cases effect with
    | fails | answers | forgets | posts | lists | fetches => exact ⟨integrity.1, integrity.2⟩
    | registers session | refreshes id session =>
        exact
          ⟨fun key reservation stored => (HashMap.containsKey_insert _ _ _ _).mpr
              (Or.inr (integrity.reservations key reservation stored)),
            fun other live published => (HashMap.containsKey_insert _ _ _ _).mpr
              (Or.inr (integrity.liveState other live published))⟩
    | deregisters id session method named stored =>
        exact (integrity_deregister integrity session).mpr (orphans method id named)
    | claims claim _ _ registered =>
        refine ⟨fun key reservation found => ?_, integrity.2⟩
        rw [HashMap.get_insert] at found
        split at found
        next =>
          obtain rfl := Option.some.inj found
          exact registered
        next => exact integrity.reservations key reservation found
    | releases id =>
        refine ⟨fun key reservation found => ?_, integrity.2⟩
        obtain ⟨-, found⟩ := HashMap.get_remove_eq_some.mp found
        exact integrity.reservations key reservation found
    | publishes live _ registered =>
        refine ⟨integrity.1, fun key stored found => ?_⟩
        rw [HashMap.get_insert] at found
        split at found
        next same =>
          obtain rfl := Option.some.inj found
          exact same ▸ registered
        next => exact integrity.liveState key stored found

/-! ## What clients observe -/

/-- The session ids in an array of reservations. -/
def owners (items : Json) : List String :=
  (items.asArray.getD []).filterMap fun item => (item.member "session_id").bind Json.asStr

theorem owners_reservations (reservations : List Reservation) :
    owners (Value.array (reservations.map Reservation.toValue)).doc =
      reservations.map Reservation.sessionId := by
  have owner_of (reservation : Reservation) :
      (reservation.toValue.doc.member "session_id").bind Json.asStr =
        some reservation.sessionId := by
    change (reservation.toValue.get "session_id").bind Json.asStr = _
    simp [Reservation.toValue, Value.get_object, Json.lookup_cons_eq_ite]
  simp [owners, Value.array, Json.asArray, List.filterMap_map, Function.comp_def, owner_of]

/-- Nothing of a session is left for clients to see. -/
structure Gone (id : String) (state : AppStateInner) : Prop where
  /-- No reservation of the session is listed. -/
  listed : ∀ params env reply, (daemon.step state ⟨"reservation.list", params, env⟩).1 = .ok reply →
    id ∉ owners reply.doc
  /-- No reservation of the session is reported as a conflict. -/
  reported : ∀ params env reply conflicts,
    (daemon.step state ⟨"reservation.claim", params, env⟩).1 = .ok reply →
    reply.get "conflicts" = some conflicts → id ∉ owners conflicts
  /-- No live state of the session is found. -/
  published : ∀ params env, getStr params "session_id" = some id →
    (daemon.step state ⟨"state.get", params, env⟩).1 =
      .error (.error (.notFound s!"live state for session {id}"))

theorem Integrity.gone {state : AppStateInner} (integrity : Integrity state) {id : String}
    (unknown : state.sessions.get id = none) : Gone id state := by
  have unregistered : ¬state.sessions.containsKey id = true := by
    simp [HashMap.containsKey, unknown]
  have not_owner : ∀ reservation ∈ state.reservations.values, reservation.sessionId ≠ id := by
    rintro reservation member rfl
    obtain ⟨key, found⟩ := HashMap.mem_values.mp member
    exact unregistered (integrity.reservations key reservation found)
  constructor
  · intro params env reply answered
    obtain ⟨listed, step, stored⟩ := step_reservationList params env state
    rw [step] at answered
    rw [← Except.ok.inj answered, owners_reservations, List.mem_map]
    rintro ⟨reservation, member, same⟩
    exact not_owner reservation (stored reservation member).1 same
  · intro params env reply conflicts answered reported
    obtain ⟨claim, -, -, rfl⟩ := claim_of_answered rfl answered
    rw [Claim.conflicts_reply] at reported
    rw [← Option.some.inj reported, owners_reservations, List.mem_map]
    rintro ⟨reservation, member, same⟩
    exact not_owner reservation (IterOrder.mem_arrange.mp (List.mem_filter.mp member).1) same
  · intro params env named
    have missing : state.liveState.get id = none := by
      cases found : state.liveState.get id with
      | none => rfl
      | some live => exact absurd (integrity.liveState id live found) unregistered
    rw [step_stateGet_missing named missing]

/-! ## Runs -/

/-- Integrity holds in every reached state, and a deregistered session is gone at once. -/
def ReferentiallySound (calls : List Call) : Prop :=
  daemon.Always Integrity newState calls ∧
    ∀ step ∈ daemon.trace newState calls, step.event.method = "session.deregister" →
      ∀ id, getStr step.event.params "session_id" = some id → Gone id step.after

/-- Whoever deregisters is unregistered right after. -/
theorem unregistered_after_deregister {state : AppStateInner} {call : Call} {id : String}
    (method : call.method = "session.deregister")
    (named : getStr call.params "session_id" = some id) :
    (daemon.step state call).2.sessions.get id = none := by
  cases found : state.sessions.get id with
  | some session =>
      rw [step_deregister method named found]
      exact (HashMap.get_remove _ _ _).trans (if_pos rfl)
  | none =>
      have effect := daemon_effect call state
      generalize daemon.step state call = result at effect
      cases effect with
      | deregisters removed => exact (HashMap.get_remove _ _ _).trans (by simp [found])
      | registers _ other | refreshes _ _ _ other => simp [method] at other
      | _ => exact found

/-- Deregistration keeps the maps together exactly when it never orphans anything. -/
theorem referentiallySound_iff {calls : List Call} :
    ReferentiallySound calls ↔
      ∀ step ∈ daemon.trace newState calls, OrphansNothing step.before step.event := by
  have always_iff : daemon.Always Integrity newState calls ↔
      ∀ step ∈ daemon.trace newState calls, OrphansNothing step.before step.event := by
    apply Mealy.always_iff_guarded integrity_newState
    intro step member integrity
    obtain ⟨front, call, back, rfl, rfl⟩ := Mealy.mem_trace.mp member
    exact integrity_step integrity call
  constructor
  · exact fun sound => always_iff.mp sound.1
  · intro guarded
    have always := always_iff.mpr guarded
    refine ⟨always, fun step member method id named => ?_⟩
    obtain ⟨front, call, back, rfl, rfl⟩ := Mealy.mem_trace.mp member
    refine Integrity.gone ?_ (unregistered_after_deregister method named)
    change Integrity (daemon.step (daemon.run newState front) call).2
    rw [← Mealy.run_snoc]
    exact always (front ++ [call]) ⟨back, by simp⟩

end Steps

/-! ## A session which leaves its reservation behind -/

attribute [local instance] Chrono.utc

/-- Register, claim a file, deregister. -/
def orphaningCalls : List Call := [
  ⟨"session.register", .object [("pid", .u64 1)], .ofSeconds 0 "a"⟩,
  ⟨"reservation.claim", .object [("session_id", .string "sess_a"), ("path", .string "/src/lib.rs")],
    .ofSeconds 1 "b"⟩,
  ⟨"session.deregister", .object [("session_id", .string "sess_a")], .ofSeconds 2 "c"⟩]

theorem not_referentiallySound_orphaningCalls : ¬ReferentiallySound orphaningCalls := by
  intro sound
  have integrity := sound.1 orphaningCalls (List.prefix_refl _)
  have stored : ((daemon.run newState orphaningCalls).reservations.get "resv_b").map
      Reservation.sessionId = some "sess_a" := by
    decide +kernel
  obtain ⟨reservation, found, owner⟩ := Option.map_eq_some_iff.mp stored
  have registered := integrity.reservations "resv_b" reservation found
  rw [owner] at registered
  revert registered
  decide +kernel

end TeamComm
