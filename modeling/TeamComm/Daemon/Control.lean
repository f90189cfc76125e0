import TeamComm.Daemon.PidFile

/-!
# Control commands

`teamcomm-daemon stop`, `status` and the detached `start`: what they do to the pid file and to the
processes, step by step, while daemons and other commands go on.
-/

namespace TeamComm

/-- How many times `stop` probes a daemon which it has signalled. -/
def stopProbes : Nat := 30

/-- The next thing a command does. -/
inductive CommandPhase
  /-- `stop`: read the pid file. -/
  | stopReads
  /-- Probe the pid it has read. -/
  | stopChecks (pid : UInt32)
  /-- Remove a stale pid file. -/
  | stopDiscards (pid : UInt32)
  /-- Send SIGTERM. -/
  | stopSignals (pid : UInt32)
  /-- Probe again, so many times at most. -/
  | stopPolls (pid : UInt32) (left : Nat)
  /-- Remove the pid file of a daemon which has exited, or has not in time. -/
  | stopRemoves (pid : UInt32) (exited : Bool)
  /-- `status`: read the pid file. -/
  | statusReads
  | statusChecks (pid : UInt32)
  /-- The detached `start`: find its own program. -/
  | startResolves (exe : Option PathBuf)
  /-- Read the pid file. -/
  | startReads (exe : PathBuf)
  | startChecks (exe : PathBuf) (pid : UInt32)
  /-- Run the program in the foreground, as a process of its own. -/
  | startSpawns (exe : PathBuf)

/-- A command. -/
inductive ControlCommand
  | stop
  | status
  /-- The detached `start` of a program, if the system tells where it is. -/
  | start (exe : Option PathBuf)

/-- What a command does first. -/
def ControlCommand.first : ControlCommand → CommandPhase
  | stop => .stopReads
  | status => .statusReads
  | start exe => .startResolves exe

/-- What a command shows. -/
inductive CommandOutput
  /-- It sends SIGTERM to a process. -/
  | signals (pid : UInt32)
  /-- `daemon not running (no pid file at …)`, or `stopped` and an exit code of 3. -/
  | noPidFile
  /-- `daemon not running (stale pid file for pid …)`, or `stale` and an exit code of 2. -/
  | stale (pid : UInt32)
  /-- `daemon stopped (pid …)`. -/
  | stopped (pid : UInt32)
  /-- `daemon did not exit within 3s; removing pid file anyway`. -/
  | lingers (pid : UInt32)
  /-- `running (pid …, socket …)`. -/
  | running (pid : UInt32)
  /-- `daemon started, pid …, socket …`. -/
  | started (pid : UInt32)
  /-- It fails. -/
  | fails (message : String)
  deriving DecidableEq

/-- What a step of a command leads to. -/
structure CommandStep where
  /-- What it does next, if it goes on. -/
  next : Option CommandPhase
  /-- What it shows. -/
  output : Option CommandOutput
  /-- The files and processes it leaves behind. -/
  world : World

namespace CommandStep

/-- The command goes on. -/
def goes (world : World) (phase : CommandPhase) : CommandStep := ⟨some phase, none, world⟩

/-- The command ends. -/
def ends (world : World) (output : CommandOutput) : CommandStep := ⟨none, some output, world⟩

end CommandStep

/-- `read_pid_file`, with what to do about a pid and about none. -/
def readsPidFile (config : DaemonConfig) (works : Bool) (world : World)
    (found : UInt32 → CommandPhase) (missing : CommandStep) : CommandStep :=
  if works then
    match readPidFile config world.pidFile with
    | .ok (some pid) => .goes world (found pid)
    | .ok none => missing
    | .error error => .ends world (.fails error)
  else .ends world (.fails s!"failed to read pid file {config.pidFilePath.inner}")

/-- `remove_pid_file` at the end of a command, with what it shows behind it; a missing file is not
an error. -/
def removesPidFile (config : DaemonConfig) (works : Bool) (world : World)
    (output : Option CommandOutput) : CommandStep :=
  if works then ⟨none, output, { world with pidFile := none }⟩
  else .ends world (.fails s!"failed to remove pid file {config.pidFilePath.inner}")

/-- The next operation of a command, which may fail; a process which it runs gets a pid. -/
def runCommand (config : DaemonConfig) (works : Bool) (child : UInt32) (world : World) :
    CommandPhase → CommandStep
  | .stopReads => readsPidFile config works world .stopChecks (.ends world .noPidFile)
  | .stopChecks pid =>
      if world.isPidRunning pid then .goes world (.stopSignals pid)
      -- The line is shown in front of the removal, which may still fail.
      else ⟨some (.stopDiscards pid), some (.stale pid), world⟩
  | .stopDiscards _ => removesPidFile config works world none
  | .stopSignals pid =>
      if works then
        if world.isPidRunning pid then
          ⟨some (.stopPolls pid stopProbes), some (.signals pid), world⟩
        else .ends world (.fails s!"kill -TERM {pid} exited with ExitStatus(unix_wait_status(256))")
      else .ends world (.fails s!"failed to send SIGTERM to pid {pid}")
  | .stopPolls pid 0 => ⟨some (.stopRemoves pid false), some (.lingers pid), world⟩
  | .stopPolls pid (left + 1) =>
      if world.isPidRunning pid then .goes world (.stopPolls pid left)
      else .goes world (.stopRemoves pid true)
  | .stopRemoves pid exited =>
      removesPidFile config works world (if exited then some (.stopped pid) else none)
  | .statusReads => readsPidFile config works world .statusChecks (.ends world .noPidFile)
  | .statusChecks pid =>
      .ends world (if world.isPidRunning pid then .running pid else .stale pid)
  | .startResolves none => .ends world (.fails "failed to resolve current_exe")
  | .startResolves (some exe) => .goes world (.startReads exe)
  | .startReads exe =>
      readsPidFile config works world (.startChecks exe) (.goes world (.startSpawns exe))
  | .startChecks exe pid =>
      if world.isPidRunning pid then
        .ends world (.fails
          s!"daemon already running (pid {pid}); refusing to start a second instance")
      else .goes world (.startSpawns exe)
  | .startSpawns exe =>
      if works ∧ world.phase child = .gone then .ends (world.move child .reading) (.started child)
      else .ends world (.fails s!"failed to spawn daemon child from {exe.inner}")

/-- The processes, and the commands which were given. -/
structure Terminal where
  world : World
  /-- What each command does next, in the order in which they were given; none behind its end. -/
  commands : List (Option CommandPhase)

/-- What happens at a terminal. -/
inductive ControlEvent
  /-- Something happens to a process. -/
  | process (event : ProcessEvent)
  /-- A command is given. -/
  | give (command : ControlCommand)
  /-- A command takes its next step. -/
  | advance (command : Nat) (works : Bool) (child : UInt32)
  /-- A command is interrupted. -/
  | interrupt (command : Nat)

/-- What a step of a command leaves of a terminal. -/
def Terminal.after (terminal : Terminal) (command : Nat) (step : CommandStep) : Terminal where
  world := step.world
  commands := terminal.commands.set command step.next

/-- Daemons and commands on one pid file. -/
def control (config : DaemonConfig) : Mealy Terminal ControlEvent (Option CommandOutput) where
  step terminal event :=
    match event with
    | .process event =>
        (none, { terminal with world := ((processes config).step terminal.world event).2 })
    | .give command =>
        (none, { terminal with commands := terminal.commands ++ [some command.first] })
    | .advance command works child =>
        match terminal.commands[command]?.join with
        | none => (none, terminal)
        | some phase =>
            let step := runCommand config works child terminal.world phase
            (step.output, terminal.after command step)
    | .interrupt command => (none, { terminal with commands := terminal.commands.set command none })

end TeamComm
