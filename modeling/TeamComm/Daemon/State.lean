import TeamComm.Daemon.Error
import TeamComm.Library.HashMap
import TeamComm.Protocol.Types

/-!
# Daemon state

The maps behind the daemon's lock, what a handler takes from outside them, and the monad a handler
runs in.  A handler holds the lock once, from its first access to its last, so the handlers of any
number of connections run one after the other in the order in which they take it.
-/

namespace TeamComm

open Json (Value)

/-- In-memory state held behind a single lock. -/
structure AppStateInner where
  /-- Live sessions, keyed by session id. -/
  sessions : HashMap String Session
  /-- Reverse index from process id to session id. -/
  sessionsByPid : HashMap UInt32 String
  /-- Active reservations, keyed by reservation id. -/
  reservations : HashMap String Reservation
  /-- Latest live state of each session. -/
  liveState : HashMap String LiveState
  /-- Inbox of each recipient. -/
  inbox : HashMap String (List InboxMessage)

/-- A fresh, empty state. -/
def newState : AppStateInner where
  sessions := ∅
  sessionsByPid := ∅
  reservations := ∅
  liveState := ∅
  inbox := ∅

/-- What one call takes from outside the state. -/
structure Env where
  /-- What the call's clock reading returns. -/
  now : DateTime
  /-- The UUID minted for the call. -/
  uuid : String
  /-- The order in which the call visits the entries of a map. -/
  order : IterOrder

namespace Env

/-- Mint a session id. -/
def mintSessionId (env : Env) : String := s!"sess_{env.uuid}"

/-- Mint a reservation id. -/
def mintReservationId (env : Env) : String := s!"resv_{env.uuid}"

/-- Mint a message id. -/
def mintMessageId (env : Env) : String := s!"msg_{env.uuid}"

/-- An environment read off a clock in seconds, with maps visited as they are stored. -/
def ofSeconds (seconds : Nat) (uuid : String)
    (small : Nat.ble seconds 8210266876799 = true := by exact Eq.refl true) : Env :=
  { now := .ofSeconds seconds (Nat.le_of_ble_eq_true small), uuid, order := .stored }

theorem mintSessionId_inj {left right : Env} :
    left.mintSessionId = right.mintSessionId ↔ left.uuid = right.uuid :=
  String.append_right_inj _

theorem mintReservationId_inj {left right : Env} :
    left.mintReservationId = right.mintReservationId ↔ left.uuid = right.uuid :=
  String.append_right_inj _

theorem mintMessageId_inj {left right : Env} :
    left.mintMessageId = right.mintMessageId ↔ left.uuid = right.uuid :=
  String.append_right_inj _

end Env

/-! ## Minted keys -/

/-- The keys of a map were minted from UUIDs spent before. -/
def Minted {α : Type} (mint : Env → String) (spent : List String) (map : HashMap String α) : Prop :=
  ∀ key value, map.get key = some value → ∃ env : Env, env.uuid ∈ spent ∧ key = mint env

namespace Minted

variable {α : Type} {mint : Env → String} {spent : List String} {map : HashMap String α} {env : Env}

theorem empty : Minted mint spent (∅ : HashMap String α) :=
  fun key value found => by simp at found

theorem spend (minted : Minted mint spent map) (uuid : String) :
    Minted mint (spent ++ [uuid]) map := fun key value found =>
  let ⟨env, env_spent, same⟩ := minted key value found
  ⟨env, List.mem_append_left _ env_spent, same⟩

/-- A fresh UUID mints a key without an entry. -/
theorem absent (minted : Minted mint spent map) (fresh : env.uuid ∉ spent)
    (injective : ∀ {left right}, mint left = mint right → left.uuid = right.uuid) :
    map.get (mint env) = none := by
  cases found : map.get (mint env) with
  | none => rfl
  | some value =>
      obtain ⟨other, other_spent, same⟩ := minted _ _ found
      exact absurd (injective same ▸ other_spent) fresh

theorem insert (minted : Minted mint spent map) {key : String}
    (source : ∃ env : Env, env.uuid ∈ spent ∧ key = mint env) (value : α) :
    Minted mint spent (map.insert key value) := by
  intro other stored found
  rw [HashMap.get_insert] at found
  split at found
  next same => exact same ▸ source
  next => exact minted other stored found

theorem remove (minted : Minted mint spent map) (key : String) :
    Minted mint spent (map.remove key) := by
  intro other stored found
  obtain ⟨-, found⟩ := HashMap.get_remove_eq_some.mp found
  exact minted other stored found

end Minted

/-! ## Handlers -/

/-- Why a handler returns no result. -/
inductive Failure
  /-- The handler returns an error. -/
  | error (error : TeamcommError)
  /-- The handler panics; its task dies with the connection. -/
  | panic (message : String)
  deriving DecidableEq

/-- A handler: it may fail, and it keeps what it has written to the state when it does. -/
abbrev Handler := ExceptT Failure (StateM AppStateInner)

namespace Handler

variable {α β : Type}

/-- Run a handler on a state. -/
def exec (handler : Handler α) (state : AppStateInner) : Except Failure α × AppStateInner :=
  StateT.run (ExceptT.run handler) state

instance : MonadLift (Except TeamcommError) Handler where
  monadLift
    | .ok result => pure result
    | .error error => throw (.error error)

@[simp] theorem exec_pure (result : α) (state : AppStateInner) :
    exec (pure result) state = (.ok result, state) := rfl

@[simp] theorem exec_throw (failure : Failure) (state : AppStateInner) :
    exec (throw failure : Handler α) state = (.error failure, state) := rfl

theorem exec_bind (handler : Handler α) (next : α → Handler β) (state : AppStateInner) :
    exec (handler >>= next) state =
      match exec handler state with
      | (.ok result, after) => exec (next result) after
      | (.error failure, after) => (.error failure, after) := by
  change (StateT.bind handler (ExceptT.bindCont next) : StateM _ _) state = _
  rcases outcome : exec handler state with ⟨failure | result, after⟩
  all_goals
    simp only [exec, ExceptT.run, StateT.run] at outcome
    simp only [StateT.bind, outcome]
    rfl

@[simp] theorem exec_get_bind (next : AppStateInner → Handler β) (state : AppStateInner) :
    exec (get >>= next) state = exec (next state) state :=
  exec_bind get next state

@[simp] theorem exec_set_bind (after : AppStateInner) (next : PUnit → Handler β)
    (state : AppStateInner) : exec (set after >>= next) state = exec (next ⟨⟩) after :=
  exec_bind (set after) next state

/-- A check which fails leaves the state alone. -/
@[simp] theorem exec_check_bind (check : Except TeamcommError α) (next : α → Handler β)
    (state : AppStateInner) :
    exec (liftM check >>= next) state =
      match check with
      | .ok result => exec (next result) state
      | .error error => (.error (.error error), state) := by
  cases check <;> exact exec_bind _ next state

/-- A computation which fails leaves the state alone. -/
@[simp] theorem exec_lift_bind (check : Except Failure α) (next : α → Handler β)
    (state : AppStateInner) :
    exec (liftM check >>= next) state =
      match check with
      | .ok result => exec (next result) state
      | .error failure => (.error failure, state) := by
  cases check <;> exact exec_bind _ next state

end Handler

end TeamComm
