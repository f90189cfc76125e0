import Mathlib.Data.List.Forall2
import TeamComm.Daemon.Control
import TeamComm.Properties.SingleInstance

/-!
# Control commands among daemons

A command looks at the pid file and at the process which the file names, and acts on what it has
seen.  What it shows is true of what it has seen, in the order in which it has seen it; by the time
it removes the file, another daemon may have written it.
-/

namespace TeamComm

/-! ## The pid file -/

/-- The command removes the pid file next. -/
def CommandPhase.removes : CommandPhase → Bool
  | stopDiscards _ | stopRemoves _ _ => true
  | _ => false

/-- What a step of a command does to the files and processes. -/
inductive CommandEffect (works : Bool) (phase : CommandPhase) (world : World) : World → Prop
  | stays (quiet : ¬(works = true ∧ phase.removes = true)) :
      CommandEffect works phase world world
  /-- A new process starts as a daemon. -/
  | spawns (child : UInt32) (quiet : ¬(works = true ∧ phase.removes = true))
      (free : world.phase child = .gone) :
      CommandEffect works phase world (world.move child .reading)
  | removes (worked : works = true) (removing : phase.removes = true) :
      CommandEffect works phase world { world with pidFile := none }

section Effects

variable (config : DaemonConfig)

theorem readsPidFile_effect {works : Bool} {phase : CommandPhase} {world : World}
    {found : UInt32 → CommandPhase} {missing : CommandStep} (same : missing.world = world)
    (quiet : ¬(works = true ∧ phase.removes = true)) :
    CommandEffect works phase world (readsPidFile config works world found missing).world := by
  have kept : (readsPidFile config works world found missing).world = world := by
    unfold readsPidFile
    split_ifs
    · split
      · rfl
      · exact same
      · rfl
    · rfl
  rw [kept]
  exact .stays quiet

theorem removesPidFile_effect {works : Bool} {phase : CommandPhase} {world : World}
    {output : Option CommandOutput} (removes : phase.removes = true) :
    CommandEffect works phase world (removesPidFile config works world output).world := by
  unfold removesPidFile
  split_ifs with worked
  · exact .removes worked removes
  · exact .stays fun both => worked both.1

theorem runCommand_effect (works : Bool) (child : UInt32) (world : World) (phase : CommandPhase) :
    CommandEffect works phase world (runCommand config works child world phase).world := by
  cases phase with
  | stopReads => exact readsPidFile_effect config rfl nofun
  | stopDiscards pid => exact removesPidFile_effect config rfl
  | stopRemoves pid exited => exact removesPidFile_effect config rfl
  | statusReads => exact readsPidFile_effect config rfl nofun
  | statusChecks pid => exact .stays nofun
  | startResolves exe => cases exe <;> exact .stays nofun
  | startReads exe => exact readsPidFile_effect config rfl nofun
  | stopPolls pid left =>
      cases left with
      | zero => exact .stays nofun
      | succ left =>
          rw [runCommand]
          split_ifs <;> exact .stays nofun
  | startSpawns exe =>
      rw [runCommand]
      split_ifs with free
      · exact .spawns child nofun free.2
      · exact .stays nofun
  | stopChecks pid =>
      rw [runCommand]
      split_ifs <;> exact .stays nofun
  | stopSignals pid =>
      rw [runCommand]
      split_ifs <;> exact .stays nofun
  | startChecks exe pid =>
      rw [runCommand]
      split_ifs <;> exact .stays nofun

end Effects

/-- What removes or writes the pid file does so while the file does not name a daemon that is up,
and a command while no daemon is up at all. -/
def Heedful (config : DaemonConfig) (terminal : Terminal) : ControlEvent → Prop
  | .process event => Undisturbed config terminal.world event
  | .advance command works _ =>
      works = true → ∀ phase, terminal.commands[command]?.join = some phase →
        phase.removes = true → ∀ pid, ¬terminal.world.Up pid
  | _ => True

/-- Nothing has been started yet. -/
def Terminal.idle (pidFile : Option String) (socket : Option UInt32) (others : UInt32 → Bool) :
    Terminal where
  world := .idle pidFile socket others
  commands := []

section Instances

variable {config : DaemonConfig}

/-- A process which starts does not disturb a single instance. -/
theorem SingleInstance.spawns {world : World} (single : SingleInstance config world)
    {child : UInt32} (free : world.phase child = .gone) :
    SingleInstance config (world.move child .reading) := by
  have started : ((processes config).step world (.start child)).2 = world.move child .reading :=
    if_pos (.inl free)
  rw [← started, singleInstance_step_iff single]
  rintro ⟨pid, event, -⟩
  cases event

/-- Without a pid file no daemon may be up. -/
theorem singleInstance_removed_iff {world : World} :
    SingleInstance config { world with pidFile := none } ↔ ∀ pid, ¬world.Up pid := by
  constructor
  · intro after pid up
    have recorded := after.recorded pid up
    cases recorded
  · intro down
    exact singleInstance_of_recorded fun pid up => absurd up (down pid)

theorem control_step_iff {terminal : Terminal} (event : ControlEvent)
    (single : SingleInstance config terminal.world) :
    SingleInstance config ((control config).step terminal event).2.world ↔
      Heedful config terminal event := by
  cases event with
  | process event => exact singleInstance_step_iff single
  | give command => exact iff_of_true single trivial
  | interrupt command => exact iff_of_true single trivial
  | advance command works child =>
      cases going : terminal.commands[command]?.join with
      | none =>
          have stands : ((control config).step terminal (.advance command works child)).2 =
              terminal := by
            simp only [control, going]
          rw [stands]
          refine iff_of_true single ?_
          intro _ phase here
          rw [going] at here
          cases here
      | some phase =>
          have goes : ((control config).step terminal (.advance command works child)).2.world =
              (runCommand config works child terminal.world phase).world := by
            simp only [control, going, Terminal.after]
          have heeds : Heedful config terminal (.advance command works child) ↔
              (works = true ∧ phase.removes = true → ∀ pid, ¬terminal.world.Up pid) := by
            constructor
            · rintro heedful ⟨worked, removing⟩
              exact heedful worked phase going removing
            · intro heedful worked other here removing
              obtain rfl := Option.some.inj (here.symm.trans going)
              exact heedful ⟨worked, removing⟩
          rw [goes, heeds]
          have effect := runCommand_effect config works child terminal.world phase
          generalize (runCommand config works child terminal.world phase).world = after at effect
          cases effect with
          | stays quiet => exact iff_of_true single fun both => absurd both quiet
          | spawns child quiet free =>
              exact iff_of_true (single.spawns free) fun both => absurd both quiet
          | removes worked removing =>
              rw [singleInstance_removed_iff]
              exact ⟨fun down _ => down, fun down => down ⟨worked, removing⟩⟩

/-- Whatever commands are given, there is a single instance throughout a run exactly when no process
removes or writes the pid file while it names a daemon that is up, and no command removes it while a
daemon is up. -/
theorem controlled_singleInstance_iff (file : Option String) (socket : Option UInt32)
    (others : UInt32 → Bool) (events : List ControlEvent) :
    (control config).Always (fun terminal => SingleInstance config terminal.world)
        (.idle file socket others) events ↔
      ∀ step ∈ (control config).trace (.idle file socket others) events,
        Heedful config step.before step.event := by
  refine Mealy.always_iff_guarded (singleInstance_idle file socket others) ?_
  intro step member single
  obtain ⟨front, event, back, rfl, rfl⟩ := Mealy.mem_trace.mp member
  exact control_step_iff event single

end Instances

/-! ## What commands have seen -/

/-- What a step of a command finds out or does. -/
inductive Finding
  /-- The pid file names no process. -/
  | missing
  /-- The pid file names a process. -/
  | names (pid : UInt32)
  /-- The probe finds a process. -/
  | alive (pid : UInt32)
  /-- The probe finds no process. -/
  | dead (pid : UInt32)
  /-- A process is sent SIGTERM. -/
  | signalled (pid : UInt32)

/-- What a command has found out and done when it is in a phase. -/
def CommandPhase.findings : CommandPhase → List Finding
  | stopReads | statusReads | startResolves _ | startReads _ | startSpawns _ => []
  | stopChecks pid | statusChecks pid | startChecks _ pid => [.names pid]
  | stopDiscards pid => [.names pid, .dead pid]
  | stopSignals pid => [.names pid, .alive pid]
  | stopPolls pid left =>
      [.names pid, .alive pid, .signalled pid] ++ List.replicate (stopProbes - left) (.alive pid)
  | stopRemoves pid true => [.names pid, .alive pid, .signalled pid, .dead pid]
  | stopRemoves pid false =>
      [.names pid, .alive pid, .signalled pid] ++ List.replicate stopProbes (.alive pid)

/-- What a command has found out and done when it shows a line. -/
def CommandOutput.findings : CommandOutput → List Finding
  | noPidFile => [.missing]
  | signals pid | running pid => [.names pid, .alive pid]
  | stale pid => [.names pid, .dead pid]
  | stopped pid => [.names pid, .alive pid, .signalled pid, .dead pid]
  | lingers pid =>
      [.names pid, .alive pid, .signalled pid] ++ List.replicate stopProbes (.alive pid)
  | started _ | fails _ => []

/-- One step of a run at a terminal. -/
abbrev ControlStep := Mealy.Transition Terminal ControlEvent (Option CommandOutput)

/-- The step is one of a command. -/
def takes (command : Nat) : ControlEvent → Bool
  | .advance other _ _ => other = command
  | _ => false

/-- What a finding tells about the files and processes, and about the line which was shown. -/
def Finding.tells (config : DaemonConfig) (world : World) (output : Option CommandOutput) :
    Finding → Prop
  | missing => readPidFile config world.pidFile = .ok none
  | names pid => readPidFile config world.pidFile = .ok (some pid)
  | alive pid => world.isPidRunning pid = true
  | dead pid => world.isPidRunning pid = false
  | signalled pid => output = some (.signals pid)

/-- A command has made findings, in their order, in steps of its own. -/
def Found (config : DaemonConfig) (command : Nat) (findings : List Finding)
    (steps : List ControlStep) : Prop :=
  List.SublistForall₂ (fun finding step =>
    takes command step.event = true ∧ finding.tells config step.before.world step.output)
    findings steps

section Findings

variable {config : DaemonConfig} {command : Nat} {findings : List Finding}
  {steps : List ControlStep}

theorem Found.later (found : Found config command findings steps) (last : ControlStep) :
    Found config command findings (steps ++ [last]) := by
  obtain ⟨chosen, each, inside⟩ := List.sublistForall₂_iff.mp found
  exact List.sublistForall₂_iff.mpr
    ⟨chosen, each, inside.trans (List.sublist_append_left steps [last])⟩

/-- The last step adds the finding which is made in it. -/
theorem Found.snoc (found : Found config command findings steps) (last : ControlStep)
    (own : takes command last.event = true) {made : Option Finding}
    (told : ∀ finding ∈ made, finding.tells config last.before.world last.output) :
    Found config command (findings ++ made.toList) (steps ++ [last]) := by
  cases made with
  | none => simpa using found.later last
  | some finding =>
      obtain ⟨chosen, each, inside⟩ := List.sublistForall₂_iff.mp found
      refine List.sublistForall₂_iff.mpr ⟨chosen ++ [last], ?_, inside.append (.refl [last])⟩
      exact List.rel_append each (.cons ⟨own, told finding rfl⟩ .nil)

/-- What a step of a command leads to rests on what the command had found and on one finding. -/
structure Rests (config : DaemonConfig) (world : World) (phase : CommandPhase)
    (step : CommandStep) (made : Option Finding) : Prop where
  told : ∀ finding ∈ made, finding.tells config world step.output
  next : ∀ next ∈ step.next, next.findings.Sublist (phase.findings ++ made.toList)
  output : ∀ output ∈ step.output, output.findings.Sublist (phase.findings ++ made.toList)

end Findings

/-! ## Patience -/

section Runs

variable {config : DaemonConfig} {terminal : Terminal} {command : Nat}

end Runs

/-- A daemon which leaves on SIGTERM is stopped. -/
example :
    let daemon := ControlEvent.process (.advance 1 true)
    let stop := ControlEvent.advance 0 true 0
    ((control tmpConfig).trace (.idle none none fun _ => false) [
      .process (.start 1), daemon, daemon, daemon, daemon, .give .stop, stop, stop, stop, daemon,
      stop, daemon, daemon, daemon, stop, stop]).filterMap Mealy.Transition.output =
        [.signals 1, .stopped 1] := by
  decide +kernel

end TeamComm
