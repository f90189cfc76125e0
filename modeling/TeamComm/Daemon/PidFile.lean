import Mathlib.Logic.Function.Basic
import TeamComm.Library.Mealy
import TeamComm.Rust

/-!
# PID file

The processes which start, run and leave on one pid file, each one a sequence of separate file
operations.  An operation may fail, and a process may die between any two of them.
-/

namespace TeamComm

/-- The paths of a daemon. -/
structure DaemonConfig where
  /-- Path of the Unix-domain socket. -/
  socketPath : PathBuf
  /-- Path of the pid file. -/
  pidFilePath : PathBuf

/-- What is written into the pid file of a process. -/
def pidText (pid : UInt32) : String := toString pid.toNat

/-- The pid in a pid file; a missing file and an empty one hold none. -/
def readPidFile (config : DaemonConfig) : Option String → Except String (Option UInt32)
  | none => .ok none
  | some text =>
      if trim text = "" then .ok none
      else
        match parseU32 (trim text) with
        | some pid => .ok (some pid)
        | none => .error s!"non-numeric pid in {config.pidFilePath.inner}"

/-- The next thing a process does. -/
inductive ProcessPhase
  /-- There is no such process. -/
  | gone
  /-- It is no daemon. -/
  | other
  /-- Read the pid file. -/
  | reading
  /-- Probe the pid it has read. -/
  | probing (existing : UInt32)
  /-- Remove the stale pid file. -/
  | removing
  /-- Write the pid file. -/
  | writing
  /-- Remove a socket file from a previous run. -/
  | unlinking
  /-- Bind the socket. -/
  | binding
  /-- Serve connections. -/
  | running
  /-- Remove the socket file. -/
  | closing
  /-- Remove the pid file. -/
  | leaving (error : Option String)
  /-- Return from `main`. -/
  | exiting (error : Option String)
  deriving DecidableEq

/-- A process is up from its write of the pid file to its removal of the file. -/
def ProcessPhase.isUp : ProcessPhase → Bool
  | unlinking | binding | running | closing | leaving _ => true
  | gone | other | reading | probing _ | removing | writing | exiting _ => false

/-- The files and the processes. -/
structure World where
  /-- Content of the pid file. -/
  pidFile : Option String
  /-- The process which bound the socket file. -/
  socket : Option UInt32
  /-- What each process does next. -/
  phase : UInt32 → ProcessPhase

namespace World

/-- No daemon has started yet. -/
def idle (pidFile : Option String) (socket : Option UInt32) (others : UInt32 → Bool) : World where
  pidFile
  socket
  phase pid := if others pid then .other else .gone

/-- `is_pid_running`: the probe finds the processes there are. -/
def isPidRunning (world : World) (pid : UInt32) : Bool := world.phase pid != .gone

/-- A process goes on. -/
def move (world : World) (pid : UInt32) (phase : ProcessPhase) : World :=
  { world with phase := Function.update world.phase pid phase }

@[simp] theorem move_pidFile (world : World) (pid : UInt32) (phase : ProcessPhase) :
    (world.move pid phase).pidFile = world.pidFile := rfl

@[simp] theorem move_phase_self (world : World) (pid : UInt32) (phase : ProcessPhase) :
    (world.move pid phase).phase pid = phase :=
  Function.update_self ..

theorem move_phase_of_ne (world : World) {pid other : UInt32} (phase : ProcessPhase)
    (ne : other ≠ pid) :
    (world.move pid phase).phase other = world.phase other :=
  Function.update_of_ne ne ..

end World

/-- The next operation of a process, which may fail: the error the process ends with, and the world
the operation leaves behind. -/
def startForeground (config : DaemonConfig) (pid : UInt32) (works : Bool) (world : World) :
    Option String × World :=
  match world.phase pid with
  | .gone => (none, world)
  | .other => (none, world)
  | .reading =>
      if works then
        match readPidFile config world.pidFile with
        | .ok (some existing) => (none, world.move pid (.probing existing))
        | .ok none => (none, world.move pid .writing)
        | .error error => (some error, world.move pid .gone)
      else (some s!"failed to read pid file {config.pidFilePath.inner}", world.move pid .gone)
  | .probing existing =>
      if world.isPidRunning existing then
        (some s!"pid file {config.pidFilePath.inner} already exists and pid {existing} is running",
          world.move pid .gone)
      else (none, world.move pid .removing)
  | .removing =>
      -- A failure is ignored.
      if works then (none, { world with pidFile := none }.move pid .writing)
      else (none, world.move pid .writing)
  | .writing =>
      if works then (none, { world with pidFile := pidText pid }.move pid .unlinking)
      else (some s!"failed to write pid file {config.pidFilePath.inner}", world.move pid .gone)
  | .unlinking =>
      if works ∨ world.socket = none then (none, { world with socket := none }.move pid .binding)
      else (none, world.move pid (.leaving s!"failed to bind socket at {config.socketPath.inner}"))
  | .binding =>
      if works ∧ world.socket = none then (none, { world with socket := pid }.move pid .running)
      else (none, world.move pid (.leaving s!"failed to bind socket at {config.socketPath.inner}"))
  | .running => (none, world.move pid .closing)
  | .closing =>
      if works then (none, { world with socket := none }.move pid (.leaving none))
      else (none, world.move pid (.leaving none))
  | .leaving error =>
      if works then (none, { world with pidFile := none }.move pid (.exiting error))
      else (none, world.move pid (.exiting error))
  | .exiting error => (error, world.move pid .gone)

/-- What happens to a process. -/
inductive ProcessEvent
  /-- It comes into being as another program. -/
  | appear (pid : UInt32)
  /-- It starts as a daemon. -/
  | start (pid : UInt32)
  /-- It takes its next step, whose file operation may fail. -/
  | advance (pid : UInt32) (works : Bool)
  /-- It dies. -/
  | crash (pid : UInt32)

/-- The processes on one pid file. -/
def processes (config : DaemonConfig) : Mealy World ProcessEvent (Option String) where
  step world event :=
    match event with
    | .appear pid => (none, if world.phase pid = .gone then world.move pid .other else world)
    | .start pid =>
        (none,
          if world.phase pid = .gone ∨ world.phase pid = .other then world.move pid .reading
          else world)
    | .advance pid works => startForeground config pid works world
    | .crash pid => (none, world.move pid .gone)

end TeamComm
