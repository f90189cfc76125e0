import TeamComm.Daemon.Db
import TeamComm.Daemon.Request

/-!
# Writing through to the store

Each request which changes the daemon's sessions, reservations or live state has a counterpart in
the store, handed the very value which the handler has stored or removed.  What a request does to
those maps is split by its counterpart, so that the two levels can be followed side by side.
-/

namespace TeamComm

open Json (Value)

/-- The counterpart of a request which has left a state behind. -/
def counterpart (env : Env) (after : AppStateInner) : Request → Option StoreWrite
  | .sessionRegister pid _ _ _ => (sessionOf after pid).map fun entry => .upsertSession entry.2
  | .sessionHeartbeat sessionId => (after.sessions.get sessionId).map .upsertSession
  | .sessionDeregister sessionId => some (.deleteSession sessionId)
  | .reservationClaim .. =>
      (after.reservations.get env.mintReservationId).map .upsertReservation
  | .reservationRelease reservationId => some (.deleteReservation reservationId)
  | .stateSet sessionId .. => (after.liveState.get sessionId).map .upsertLiveState
  | _ => none

/-- The write which follows a request that was performed, unless it failed. -/
def followUp (env : Env) (request : Request) :
    Except Failure Value × AppStateInner → Option StoreWrite
  | (.ok _, after) => counterpart env after request
  | (.error _, _) => none

section Steps

variable [Chrono]

/-- The write which follows a call, unless it fails. -/
def writeThrough (before : AppStateInner) (call : Call) : Option StoreWrite :=
  match Request.read call.method call.params with
  | .ok request => followUp call.env request (daemon.step before call)
  | .error _ => none

/-- Sessions stand under their own ids and their pids lead to them. -/
structure Indexed (state : AppStateInner) : Prop where
  named : ∀ {id session}, state.sessions.get id = some session → session.sessionId = id
  indexed : ∀ {id session}, state.sessions.get id = some session →
    state.sessionsByPid.get session.pid = some id

/-- Sessions are indexed after every run, with UUIDs fresh or not. -/
theorem indexed_run (calls : List Call) : Indexed (daemon.run newState calls) := by
  have initial : Indexed newState :=
    ⟨fun found => by simp [newState] at found, fun found => by simp [newState] at found⟩
  refine Mealy.invariant initial ?_ calls
  intro state call before
  have effect := daemon_effect call state
  generalize daemon.step state call = result at effect
  cases effect with
  | registers session _ _ unindexed =>
      constructor
      · intro id stored found
        rw [HashMap.get_insert] at found
        split at found
        next same => rw [same, ← Option.some.inj found]
        next => exact before.named found
      · intro id stored found
        rw [HashMap.get_insert] at found
        split at found
        next same => rw [same, ← Option.some.inj found, HashMap.get_insert_self]
        next =>
          have already := before.indexed found
          have different : stored.pid ≠ session.pid := fun same => by
            rw [unindexed id (same ▸ already)] at found
            cases found
          rw [HashMap.get_insert_of_ne _ _ different, already]
  | refreshes id session _ _ stored =>
      constructor
      · intro other refreshed found
        rw [HashMap.get_insert] at found
        split at found
        next same => rw [same, ← Option.some.inj found, ← before.named stored]
        next => exact before.named found
      · intro other refreshed found
        rw [HashMap.get_insert] at found
        split at found
        next same =>
          have already := before.indexed stored
          rw [same, ← Option.some.inj found]
          exact already
        next => exact before.indexed found
  | deregisters id session _ _ stored =>
      constructor
      · intro other kept found
        obtain ⟨-, found⟩ := HashMap.get_remove_eq_some.mp found
        exact before.named found
      · intro other kept found
        obtain ⟨different, found⟩ := HashMap.get_remove_eq_some.mp found
        have already := before.indexed found
        have apart : kept.pid ≠ session.pid := fun same => by
          rw [same, before.indexed stored] at already
          exact different (Option.some.inj already).symm
        rw [HashMap.get_remove, if_neg apart, already]
  | _ => exact ⟨before.named, before.indexed⟩

/-- A deregistration always succeeds, so a deletion always follows. -/
theorem writeThrough_deregister {before : AppStateInner} {call : Call} {id : String}
    (read : Request.read call.method call.params = .ok (.sessionDeregister id)) :
    writeThrough before call = some (.deleteSession id) := by
  rw [writeThrough, read, Request.step_of_read before read]
  simp only [Request.perform]
  split <;> rfl

/-! ## What a call does to the mirrored maps -/

/-- What a call which deregisters nobody does to the mirrored maps, by the write which follows
it. -/
inductive Change (before : AppStateInner) : AppStateInner → Option StoreWrite → Prop
  /-- Nothing. -/
  | quiet {after : AppStateInner} (sessions : after.sessions = before.sessions)
      (sessionsByPid : after.sessionsByPid = before.sessionsByPid)
      (reservations : after.reservations = before.reservations)
      (liveState : after.liveState = before.liveState) : Change before after none
  /-- A session is created. -/
  | registers (session : Session) : Change before
      { before with
        sessions := before.sessions.insert session.sessionId session
        sessionsByPid := before.sessionsByPid.insert session.pid session.sessionId }
      (some (.upsertSession session))
  /-- A session which its pid leads to is refreshed. -/
  | refreshes (session : Session)
      (indexed : before.sessionsByPid.get session.pid = some session.sessionId) :
      Change before
        { before with sessions := before.sessions.insert session.sessionId session }
        (some (.upsertSession session))
  /-- A registered session gets a reservation. -/
  | claims (reservation : Reservation)
      (registered : before.sessions.containsKey reservation.sessionId = true) : Change before
      { before with
        reservations := before.reservations.insert reservation.reservationId reservation }
      (some (.upsertReservation reservation))
  /-- A reservation is dropped. -/
  | releases (id : String) : Change before
      { before with reservations := before.reservations.remove id }
      (some (.deleteReservation id))
  /-- A registered session publishes its live state. -/
  | publishes (live : LiveState)
      (registered : before.sessions.containsKey live.sessionId = true) : Change before
      { before with liveState := before.liveState.insert live.sessionId live }
      (some (.upsertLiveState live))

theorem change_perform {before : AppStateInner} (mirror : Indexed before) (env : Env)
    {request : Request} (other : ∀ id, request ≠ .sessionDeregister id) :
    Change before (request.perform env before).2
      (followUp env request (request.perform env before)) := by
  have unchanged : Change before before none := .quiet rfl rfl rfl rfl
  cases request with
  | sessionDeregister id => exact absurd rfl (other id)
  | sessionRegister pid agentType workingDir capabilities =>
      simp only [Request.perform]
      cases bound : sessionOf before pid with
      | some entry =>
          obtain ⟨id, existing⟩ := entry
          obtain ⟨byPid, stored⟩ := sessionOf_eq_some.mp bound
          obtain rfl := mirror.named stored
          let refreshed : Session := { existing with lastHeartbeat := env.now }
          have found : sessionOf
              { before with sessions := before.sessions.insert existing.sessionId refreshed } pid =
                some (existing.sessionId, refreshed) :=
            sessionOf_eq_some.mpr ⟨byPid, HashMap.get_insert_self _ _ _⟩
          have already := mirror.indexed stored
          simp only [followUp, counterpart, refreshed] at found ⊢
          rw [found]
          exact .refreshes refreshed already
      | none =>
          let created := newSession env pid agentType workingDir capabilities
          have found : sessionOf
              { before with
                sessions := before.sessions.insert env.mintSessionId created
                sessionsByPid := before.sessionsByPid.insert pid env.mintSessionId } pid =
                some (env.mintSessionId, created) :=
            sessionOf_eq_some.mpr ⟨HashMap.get_insert_self _ _ _, HashMap.get_insert_self _ _ _⟩
          simp only [followUp, counterpart, created] at found ⊢
          rw [found]
          exact .registers created
  | sessionHeartbeat id =>
      simp only [Request.perform]
      cases stored : before.sessions.get id with
      | some session =>
          obtain rfl := mirror.named stored
          have already := mirror.indexed stored
          simp only [followUp, counterpart, HashMap.get_insert_self]
          exact .refreshes { session with lastHeartbeat := env.now } already
      | none => exact unchanged
  | reservationClaim sessionId path mode ttlSec =>
      simp only [Request.perform]
      cases expiry env.now ttlSec with
      | error failure => exact unchanged
      | ok expires =>
          by_cases registered : before.sessions.containsKey sessionId = true
          · let claim : Claim := { sessionId, path, mode, expires }
            simp only [if_pos registered, followUp, counterpart, HashMap.get_insert_self]
            exact .claims (claim.reservation env) registered
          · simp only [if_neg registered]
            exact unchanged
  | reservationRelease id =>
      simp only [Request.perform]
      cases before.reservations.get id with
      | some => exact .releases id
      | none => exact unchanged
  | stateSet sessionId focusFile focusBranch worktree status =>
      simp only [Request.perform]
      by_cases registered : before.sessions.containsKey sessionId = true
      · simp only [if_pos registered, followUp, counterpart, HashMap.get_insert_self]
        let live : LiveState :=
          { sessionId, focusFile, focusBranch, worktree, status, lastHeartbeat := env.now }
        exact .publishes live registered
      · simp only [if_neg registered]
        exact unchanged
  | sessionGet id | stateGet id =>
      simp only [Request.perform]
      split <;> exact unchanged
  | inboxPost | inboxRead =>
      simp only [Request.perform]
      split <;> exact .quiet rfl rfl rfl rfl
  | _ => exact .quiet rfl rfl rfl rfl

/-- A call which deregisters nobody. -/
theorem change_step {before : AppStateInner} (mirror : Indexed before) {call : Call}
    (other : ∀ id, Request.read call.method call.params ≠ .ok (.sessionDeregister id)) :
    Change before (daemon.step before call).2 (writeThrough before call) := by
  unfold writeThrough
  cases read : Request.read call.method call.params with
  | error error =>
      rw [Request.step_of_error before read]
      exact .quiet rfl rfl rfl rfl
  | ok request =>
      rw [Request.step_of_read before read]
      exact change_perform mirror call.env fun id same => other id (same ▸ read)

end Steps

end TeamComm
