import TeamComm.Daemon.PidFile

/-!
# Single instance

A pid file which names every daemon that is up leaves room for one of them.  The check in front of
the write does not keep it so: a process which has found the file missing or stale removes and
writes it later, whatever it holds by then.
-/

namespace TeamComm

/-! ## The file -/

private theorem not_whitespace_of_isDigit {char : Char} (digit : char.isDigit = true) :
    isWhitespace char = false := by
  have bounds : 48 ≤ char.toNat ∧ char.toNat ≤ 57 := by
    simp [Char.isDigit, UInt32.le_iff_toNat_le] at digit
    exact digit
  unfold isWhitespace
  simp only [Bool.or_eq_false_iff, Bool.and_eq_false_iff, decide_eq_false_iff_not,
    beq_eq_false_iff_ne]
  omega

/-- A pid is read back as it was written. -/
theorem parseU32_pidText (pid : UInt32) : parseU32 (pidText pid) = some pid := by
  have digits : (pidText pid).toList = Nat.toDigits 10 pid.toNat := Nat.toList_repr
  have unsigned : stripPlus (Nat.toDigits 10 pid.toNat) = Nat.toDigits 10 pid.toNat := by
    unfold stripPlus
    split
    next chars same =>
      have digit : '+'.isDigit = true :=
        Nat.isDigit_of_mem_toDigits (by decide) (by decide) (same ▸ List.mem_cons_self)
      exact absurd digit (by decide)
    next => rfl
  have all_digits : (Nat.toDigits 10 pid.toNat).all Char.isDigit = true :=
    List.all_eq_true.mpr fun char member =>
      Nat.isDigit_of_mem_toDigits (by decide) (by decide) member
  have valid :
      ¬(Nat.toDigits 10 pid.toNat = [] ∨ ¬(Nat.toDigits 10 pid.toNat).all Char.isDigit) := by
    simp only [Nat.toDigits_ne_nil, all_digits, not_true_eq_false, or_self, not_false_eq_true]
  unfold parseU32
  rw [digits, unsigned]
  dsimp only
  rw [if_neg valid, Nat.ofDigitChars_ten_toDigits, if_pos pid.toNat_lt, UInt32.ofNat_toNat]

theorem readPidFile_pidText (config : DaemonConfig) (pid : UInt32) :
    readPidFile config (pidText pid) = .ok (some pid) := by
  have digits : (pidText pid).toList = Nat.toDigits 10 pid.toNat := Nat.toList_repr
  have plain : ∀ char ∈ (pidText pid).toList, isWhitespace char = false := fun char member =>
    not_whitespace_of_isDigit
      (Nat.isDigit_of_mem_toDigits (by decide) (by decide) (digits ▸ member))
  have trimmed : trim (pidText pid) = pidText pid :=
    trim_eq_self (fun char member => plain char (List.mem_of_mem_head? member))
      fun char member => plain char (List.mem_of_mem_getLast? member)
  have nonempty : pidText pid ≠ "" := by
    intro empty
    rw [empty] at digits
    exact Nat.toDigits_ne_nil digits.symm
  rw [readPidFile, trimmed, if_neg nonempty, parseU32_pidText]

/-! ## Steps -/

namespace World

/-- A process is up. -/
def Up (world : World) (pid : UInt32) : Prop := (world.phase pid).isUp = true

theorem up_move {world : World} {pid other : UInt32} {phase : ProcessPhase} :
    (world.move pid phase).Up other ↔
      if other = pid then phase.isUp = true else world.Up other := by
  unfold Up
  split_ifs with same
  · rw [same, move_phase_self]
  · rw [move_phase_of_ne world phase same]

end World

/-- A starting process removes or writes the pid file. -/
def TouchesFile (world : World) (event : ProcessEvent) : Prop :=
  ∃ pid, event = .advance pid true ∧ (world.phase pid = .removing ∨ world.phase pid = .writing)

theorem not_touchesFile_advance {world : World} {pid : UInt32} {works : Bool}
    (quiet : works = true → world.phase pid ≠ .removing ∧ world.phase pid ≠ .writing) :
    ¬TouchesFile world (.advance pid works) := by
  rintro ⟨other, same, phase⟩
  obtain ⟨rfl, rfl⟩ := ProcessEvent.advance.inj same
  exact phase.elim (quiet rfl).1 (quiet rfl).2

/-- What a step does to the pid file and to the processes which are up. -/
inductive FileStep (world : World) (event : ProcessEvent) (after : World) : Prop
  /-- The file stays, and no process comes up. -/
  | stays (quiet : ¬TouchesFile world event) (file : after.pidFile = world.pidFile)
      (up : ∀ other, after.Up other → world.Up other)
  /-- A starting process removes the file. -/
  | removes (pid : UInt32) (touches : TouchesFile world event) (file : after.pidFile = none)
      (up : ∀ other, after.Up other ↔ world.Up other)
  /-- A starting process writes the file, and is up. -/
  | writes (pid : UInt32) (touches : TouchesFile world event) (fresh : ¬world.Up pid)
      (file : after.pidFile = some (pidText pid))
      (up : ∀ other, after.Up other ↔ other = pid ∨ world.Up other)
  /-- A daemon removes the file on its way out. -/
  | leaves (pid : UInt32) (quiet : ¬TouchesFile world event) (before_up : world.Up pid)
      (file : after.pidFile = none) (up : ∀ other, after.Up other → other ≠ pid ∧ world.Up other)

/-- The file stays when a process goes on to a phase in which it is not up, or was up before. -/
theorem FileStep.of_move {world changed : World} {event : ProcessEvent} {pid : UInt32}
    {phase : ProcessPhase}
    (quiet : ¬TouchesFile world event) (file : changed.pidFile = world.pidFile)
    (phases : changed.phase = world.phase) (below : phase.isUp = true → world.Up pid) :
    FileStep world event (changed.move pid phase) := by
  refine .stays quiet file fun other up => ?_
  rw [World.up_move] at up
  split_ifs at up with same
  · exact same ▸ below up
  · unfold World.Up at up ⊢
    rwa [← phases]

theorem step_fileStep (config : DaemonConfig) (world : World) (event : ProcessEvent) :
    FileStep world event ((processes config).step world event).2 := by
  cases event with
  | appear pid =>
      change FileStep world _ (if world.phase pid = .gone then world.move pid .other else world)
      split_ifs
      · exact .of_move nofun rfl rfl nofun
      · exact .stays nofun rfl fun _ up => up
  | start pid =>
      change FileStep world _ (if world.phase pid = .gone ∨ world.phase pid = .other then
        world.move pid .reading else world)
      split_ifs
      · exact .of_move nofun rfl rfl nofun
      · exact .stays nofun rfl fun _ up => up
  | crash pid => exact .of_move nofun rfl rfl nofun
  | advance pid works =>
      change FileStep world _ (startForeground config pid works world).2
      have failed : works = false → ¬TouchesFile world (.advance pid works) := by
        rintro rfl
        exact not_touchesFile_advance nofun
      have elsewhere : world.phase pid ≠ .removing → world.phase pid ≠ .writing →
          ¬TouchesFile world (.advance pid works) :=
        fun not_removing not_writing => not_touchesFile_advance fun _ => ⟨not_removing, not_writing⟩
      have up_iff : world.Up pid ↔ (world.phase pid).isUp = true := Iff.rfl
      unfold startForeground
      cases phase : world.phase pid with rw [phase] at elsewhere up_iff
      | gone => exact .stays (elsewhere nofun nofun) rfl fun _ up => up
      | other => exact .stays (elsewhere nofun nofun) rfl fun _ up => up
      | reading =>
          have quiet := elsewhere nofun nofun
          dsimp only
          split_ifs
          · split <;> exact .of_move quiet rfl rfl nofun
          · exact .of_move quiet rfl rfl nofun
      | probing existing =>
          have quiet := elsewhere nofun nofun
          dsimp only
          split_ifs <;> exact .of_move quiet rfl rfl nofun
      | removing =>
          cases works with
          | false => exact .of_move (failed rfl) rfl rfl nofun
          | true =>
              refine .removes pid ⟨pid, rfl, .inl phase⟩ rfl fun other => ?_
              refine World.up_move.trans ?_
              split_ifs with same
              · subst same
                exact up_iff.symm
              · rfl
      | writing =>
          cases works with
          | false => exact .of_move (failed rfl) rfl rfl nofun
          | true =>
              refine .writes pid ⟨pid, rfl, .inr phase⟩ (fun up => nomatch up_iff.mp up) rfl
                fun other => ?_
              refine World.up_move.trans ?_
              split_ifs with same
              · exact iff_of_true rfl (.inl same)
              · exact ⟨.inr, fun up => up.resolve_left same⟩
      | unlinking =>
          have quiet := elsewhere nofun nofun
          dsimp only
          split_ifs <;> exact .of_move quiet rfl rfl up_iff.mpr
      | binding =>
          have quiet := elsewhere nofun nofun
          dsimp only
          split_ifs <;> exact .of_move quiet rfl rfl up_iff.mpr
      | running => exact .of_move (elsewhere nofun nofun) rfl rfl up_iff.mpr
      | closing =>
          have quiet := elsewhere nofun nofun
          dsimp only
          split_ifs <;> exact .of_move quiet rfl rfl up_iff.mpr
      | leaving error =>
          have quiet := elsewhere nofun nofun
          cases works with
          | false => exact .of_move quiet rfl rfl nofun
          | true =>
              refine .leaves pid quiet (up_iff.mpr rfl) rfl fun other up => ?_
              have moved := World.up_move.mp up
              split_ifs at moved with same
              · cases moved
              · exact ⟨same, moved⟩
      | exiting error => exact .of_move (elsewhere nofun nofun) rfl rfl nofun

/-! ## Runs -/

section Runs

variable (config : DaemonConfig)

/-- At most one daemon is up, and the pid file holds its pid. -/
structure SingleInstance (world : World) : Prop where
  only : ∀ left right, world.Up left → world.Up right → left = right
  recorded : ∀ pid, world.Up pid → readPidFile config world.pidFile = .ok (some pid)

/-- A process which removes or writes the pid file does so while the file does not name a daemon
that is up. -/
def Undisturbed (world : World) (event : ProcessEvent) : Prop :=
  TouchesFile world event →
    ∀ other, world.Up other → readPidFile config world.pidFile ≠ .ok (some other)

variable {config}

/-- A pid file which names every daemon that is up names the only one. -/
theorem singleInstance_of_recorded {world : World}
    (recorded : ∀ pid, world.Up pid → readPidFile config world.pidFile = .ok (some pid)) :
    SingleInstance config world where
  only left right left_up right_up := by
    have same := (recorded left left_up).symm.trans (recorded right right_up)
    exact Option.some.inj (Except.ok.inj same)
  recorded := recorded

/-- The socket file which a single instance deletes before it binds belongs to no running daemon. -/
theorem SingleInstance.not_running {world : World} (single : SingleInstance config world)
    {pid : UInt32} (unlinking : world.phase pid = .unlinking) (other : UInt32) :
    world.phase other ≠ .running := by
  intro running
  have pid_up : world.Up pid := by simp [World.Up, unlinking, ProcessPhase.isUp]
  have other_up : world.Up other := by simp [World.Up, running, ProcessPhase.isUp]
  rw [single.only pid other pid_up other_up, running] at unlinking
  cases unlinking

theorem singleInstance_idle (file : Option String) (socket : Option UInt32)
    (others : UInt32 → Bool) : SingleInstance config (.idle file socket others) := by
  have none_up : ∀ pid, ¬(World.idle file socket others).Up pid := by
    intro pid
    cases other : others pid <;> simp [World.Up, World.idle, other, ProcessPhase.isUp]
  exact singleInstance_of_recorded fun pid up => absurd up (none_up pid)

/-- A step leaves one instance exactly when it does not disturb the file. -/
theorem singleInstance_step_iff {world : World} {event : ProcessEvent}
    (single : SingleInstance config world) :
    SingleInstance config ((processes config).step world event).2 ↔
      Undisturbed config world event := by
  have step := step_fileStep config world event
  generalize ((processes config).step world event).2 = after at step ⊢
  cases step with
  | stays quiet file up =>
      refine iff_of_true (singleInstance_of_recorded fun other other_up => ?_)
        fun touches => absurd touches quiet
      rw [file]
      exact single.recorded other (up other other_up)
  | removes pid touches file up =>
      constructor
      · intro after_single _ other other_up
        have recorded := after_single.recorded other ((up other).mpr other_up)
        rw [file] at recorded
        cases recorded
      · intro undisturbed
        refine singleInstance_of_recorded fun other other_up => ?_
        have before_up := (up other).mp other_up
        exact absurd (single.recorded other before_up) (undisturbed touches other before_up)
  | writes pid touches fresh file up =>
      constructor
      · intro after_single _ other other_up
        have same := after_single.only other pid ((up other).mpr (.inr other_up))
          ((up pid).mpr (.inl rfl))
        exact absurd (same ▸ other_up) fresh
      · intro undisturbed
        refine singleInstance_of_recorded fun other other_up => ?_
        rcases (up other).mp other_up with rfl | before_up
        · rw [file]
          exact readPidFile_pidText config other
        · exact absurd (single.recorded other before_up) (undisturbed touches other before_up)
  | leaves pid quiet before_up file up =>
      refine iff_of_true (singleInstance_of_recorded fun other other_up => ?_)
        fun touches => absurd touches quiet
      obtain ⟨ne, other_before⟩ := up other other_up
      exact absurd (single.only other pid other_before before_up) ne

/-- There is a single instance throughout a run exactly when no process removes or writes the pid
file while it names a daemon that is up. -/
theorem singleInstance_iff (file : Option String) (socket : Option UInt32)
    (others : UInt32 → Bool) (events : List ProcessEvent) :
    (processes config).Always (SingleInstance config) (.idle file socket others) events ↔
      ∀ step ∈ (processes config).trace (.idle file socket others) events,
        Undisturbed config step.before step.event := by
  refine Mealy.always_iff_guarded (singleInstance_idle file socket others) ?_
  intro step member single
  obtain ⟨front, event, back, rfl, rfl⟩ := Mealy.mem_trace.mp member
  exact singleInstance_step_iff single

end Runs

/-! ## Two starts at once -/

/-- Paths without a runtime directory. -/
def tmpConfig : DaemonConfig where
  socketPath := ⟨"/tmp/teamcomm/daemon.sock"⟩
  pidFilePath := ⟨"/tmp/teamcomm/daemon.pid"⟩

/-- Both of two processes find no pid file before either of them writes it. -/
def racingStarts : List ProcessEvent := [
  .start 1, .start 2, .advance 1 true, .advance 2 true, .advance 1 true, .advance 2 true]

theorem not_singleInstance_racingStarts :
    ¬(processes tmpConfig).Always (SingleInstance tmpConfig) (.idle none none fun _ => false)
      racingStarts := by
  intro always
  have single := always racingStarts (List.prefix_refl _)
  exact absurd (single.only 1 2 rfl rfl) (by decide)

end TeamComm
