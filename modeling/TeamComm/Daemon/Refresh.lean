import Mathlib.Logic.Function.Basic
import TeamComm.Daemon.Registration

/-!
# Refreshing a session

The handlers which refresh one session, each in two steps: it reads the clock, and later it takes
the lock.  Any number of them may stand between the two.
-/

namespace TeamComm

open Json (Value)

/-- A handler which is to refresh a session of a process, with the clock reading it takes. -/
inductive Refresh (id : String) (pid : UInt32)
  /-- A heartbeat which names the session. -/
  | heartbeat (env : Env) (payload : Value) (named : getStr payload "session_id" = some id)
  /-- A registration of the process. -/
  | register (env : Env) (payload : Value)
      (process : (getU64 payload "pid").map UInt64.toUInt32 = some pid)

namespace Refresh

variable {id : String} {pid : UInt32}

/-- The clock reading. -/
def now : Refresh id pid → DateTime
  | heartbeat env .. => env.now
  | register env .. => env.now

/-- What is left to do behind the clock reading, under the lock. -/
def underLock : Refresh id pid → Handler Value
  | heartbeat env payload _ => handleSessionHeartbeat env payload
  | register env payload _ => handleSessionRegister env payload

/-- The answer to a refresh of a session which is there. -/
def answer : Refresh id pid → Value
  | heartbeat .. => .object [("ok", .bool true), ("next_heartbeat_sec", .u64 heartbeatIntervalSec)]
  | register .. => registerReply id

/-- A refresh overwrites the last heartbeat with its clock reading. -/
theorem exec_underLock (refresh : Refresh id pid) {inner : AppStateInner} {session : Session}
    (bound : sessionOf inner pid = some (id, session)) :
    refresh.underLock.exec inner =
      (.ok refresh.answer,
        { inner with
          sessions :=
            inner.sessions.insert id { session with lastHeartbeat := refresh.now } }) := by
  cases refresh with
  | heartbeat env payload named =>
      have stored := (sessionOf_eq_some.mp bound).2
      simp only [underLock, handleSessionHeartbeat, Handler.exec_check_bind,
        requiredStr_eq_ok.mpr named, Handler.exec_get_bind, stored]
      rfl
  | register env payload process =>
      obtain ⟨number, read, rfl⟩ := Option.map_eq_some_iff.mp process
      rw [underLock, exec_sessionRegister, read]
      simp only [bound]
      rfl

end Refresh

/-- The state behind the lock, and the handlers which wait for the lock. -/
structure RefreshState (id : String) (pid : UInt32) where
  /-- The state behind the lock. -/
  inner : AppStateInner
  /-- The handlers which have read the clock. -/
  waiting : Nat → Option (Refresh id pid)

/-- A step of a handler, which runs as a task of its own. -/
inductive RefreshEvent (id : String) (pid : UInt32)
  /-- The handler of a new task reads the clock. -/
  | sample (task : Nat) (refresh : Refresh id pid)
  /-- The handler of a task takes the lock and answers. -/
  | update (task : Nat)

/-- The handlers which refresh one session, step by step. -/
def refreshing (id : String) (pid : UInt32) :
    Mealy (RefreshState id pid) (RefreshEvent id pid) (Option (Except Failure Value)) where
  step state event :=
    match event with
    | .sample task refresh =>
        (none, { state with waiting := Function.update state.waiting task (some refresh) })
    | .update task =>
        match state.waiting task with
        | none => (none, state)
        | some refresh =>
            (some (refresh.underLock.exec state.inner).1,
              { inner := (refresh.underLock.exec state.inner).2
                waiting := Function.update state.waiting task none })

section Steps

variable {id : String} {pid : UInt32} {state : RefreshState id pid} {task : Nat}

theorem step_sample (refresh : Refresh id pid) :
    (refreshing id pid).step state (.sample task refresh) =
      (none, { state with waiting := Function.update state.waiting task (some refresh) }) := rfl

theorem step_update_none (waits : state.waiting task = none) :
    (refreshing id pid).step state (.update task) = (none, state) := by
  simp only [refreshing, waits]

theorem step_update_some {refresh : Refresh id pid} (waits : state.waiting task = some refresh) :
    (refreshing id pid).step state (.update task) =
      (some (refresh.underLock.exec state.inner).1,
        { inner := (refresh.underLock.exec state.inner).2
          waiting := Function.update state.waiting task none }) := by
  simp only [refreshing, waits]

end Steps

end TeamComm
