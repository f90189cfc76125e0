import Mathlib.Data.List.Range
import TeamComm.Daemon.Store

/-!
# Schema versions

Daemons of different schema versions open one file in turn.  An opening which gets through executes
the steps which the file is behind and then sets the version to its own, even where that is lower;
so versions never go back and no step is executed twice exactly as long as no daemon gets through
to a file which is ahead of it.
-/

namespace TeamComm

open Transactions

/-- An opening by a daemon of a schema version, and the statement at which the database fails. -/
structure Opening where
  target : Int
  failsIn : Option Nat

/-- Openings of one file, with the steps which each of them executes. -/
def openings (migrations : Migrations) : Mealy Database Opening (Except SqlError (List Nat)) where
  step database opening :=
    let (result, after) := (openStore migrations opening.target).exec ⟨database, opening.failsIn⟩
    (result, after.content)

/-- One opening of a run. -/
abbrev OpeningStep := Mealy.Transition Database Opening (Except SqlError (List Nat))

/-- The steps which stay executed. -/
def executed (step : OpeningStep) : List Nat :=
  match step.output with
  | .ok steps => steps
  | .error _ => []

/-- The opening gets through. -/
def Succeeds (step : OpeningStep) : Prop := ∃ steps, step.output = .ok steps

/-- Versions never go back, no step is executed twice, and a file which is not behind stays. -/
structure VersionLaw (migrations : Migrations) (file : Database) (events : List Opening) :
    Prop where
  never_lowered : ∀ step ∈ (openings migrations).trace file events, Succeeds step →
    step.before.userVersion ≤ step.after.userVersion
  once : (((openings migrations).trace file events).flatMap executed).Nodup
  idle : ∀ step ∈ (openings migrations).trace file events, Succeeds step →
    step.event.target ≤ step.before.userVersion → step.after = step.before

/-- The statements of an opening without pending steps: the three settings, the version it asks
for, the transaction and the version it sets. -/
def idleStatements : Nat := 7

/-- An opening does not reach a file which is ahead of it. -/
def NotAhead (file : Database) (opening : Opening) : Prop :=
  file.userVersion ≤ opening.target ∨ ¬Work.LetsThrough opening.failsIn idleStatements

/-! ## One opening -/

section Opening

variable {migrations : Migrations} {current target : Int}

theorem mem_pendingSteps {step : Nat} :
    step ∈ pendingSteps current target ↔ 1 ≤ step ∧ (step : Int) ≤ target ∧ current < step := by
  simp only [pendingSteps, List.mem_filter, List.mem_range'_1, decide_eq_true_iff]
  omega

theorem pendingSteps_nodup : (pendingSteps current target).Nodup :=
  List.Nodup.filter _ List.nodup_range'

theorem pendingSteps_eq_nil (ahead : target ≤ current) : pendingSteps current target = [] := by
  rw [List.eq_nil_iff_forall_not_mem]
  intro step member
  obtain ⟨-, below, above⟩ := mem_pendingSteps.mp member
  omega

/-- What comes out of an opening: nothing happened, or the pending steps were executed and the
version is that of the daemon. -/
inductive Opened (file : Database) (opening : Opening) :
    Except SqlError (List Nat) → Database → Prop
  | fails (error : SqlError) : Opened file opening (.error error) file
  | migrates (after : Database)
      (version : after.userVersion = opening.target)
      (idle : pendingSteps file.userVersion opening.target = [] →
        after = { file with userVersion := opening.target }) :
      Opened file opening (.ok (pendingSteps file.userVersion opening.target)) after

theorem allOrNothing_openStore (migrations : Migrations) (target : Int) :
    Work.AllOrNothing (openStore migrations target) := by
  refine Work.Keeps.tick.bind_allOrNothing fun _ => ?_
  refine Work.Keeps.tick.bind_allOrNothing fun _ => ?_
  refine Work.Keeps.tick.bind_allOrNothing fun _ => ?_
  exact (Work.Keeps.query _).bind_allOrNothing fun _ => Work.AllOrNothing.transaction _

/-- A daemon which gets through has executed what was pending and set the version. -/
theorem migrateTo_of_ok {file : Database} {failsIn : Option Nat} {steps : List Nat}
    {after : Transactions.Connection Database}
    (done : (migrateTo migrations target).exec ⟨file, failsIn⟩ = (.ok steps, after)) :
    steps = pendingSteps file.userVersion target ∧ after.content.userVersion = target ∧
      (pendingSteps file.userVersion target = [] →
        after.content = { file with userVersion := target }) := by
  obtain ⟨current, ⟨same, asked⟩, answer, migrated⟩ := Work.exec_bind_eq_ok.mp done
  obtain ⟨current_eq, same_eq⟩ := Work.query_of_ok answer
  obtain rfl : file.userVersion = current := Except.ok.inj current_eq
  obtain rfl : same = file := same_eq
  obtain ⟨begun, ending, body, after_eq⟩ := Work.transaction_of_ok migrated
  obtain ⟨_, ⟨stepped, rest⟩, loop, setting⟩ := Work.exec_bind_eq_ok.mp body
  obtain ⟨_, set, set_done, last⟩ := Work.exec_bind_eq_ok.mp setting
  obtain ⟨answer, rfl⟩ := Prod.mk.inj last
  have set_eq : setUserVersion target stepped = .ok set.content := Work.execute_of_ok set_done
  have content_eq : { stepped with userVersion := target } = after.content :=
    (Except.ok.inj set_eq).trans after_eq.symm
  refine ⟨(Except.ok.inj answer).symm, by rw [← content_eq], fun nothing => ?_⟩
  rw [nothing] at loop
  have stays : same = stepped := congrArg Transactions.Connection.content (Prod.mk.inj loop).2
  rw [← content_eq, stays]

theorem opened (migrations : Migrations) (file : Database) (opening : Opening) :
    Opened file opening ((openings migrations).step file opening).1
      ((openings migrations).step file opening).2 := by
  change Opened file opening
    ((openStore migrations opening.target).exec ⟨file, opening.failsIn⟩).1
    ((openStore migrations opening.target).exec ⟨file, opening.failsIn⟩).2.content
  rcases outcome : (openStore migrations opening.target).exec ⟨file, opening.failsIn⟩ with
    ⟨error | steps, after⟩
  · have unchanged := allOrNothing_openStore migrations opening.target file _ _ _ outcome
    dsimp only
    rw [unchanged]
    exact .fails error
  · obtain ⟨_, ⟨first, _⟩, first_done, rest⟩ := Work.exec_bind_eq_ok.mp outcome
    obtain ⟨_, ⟨second, _⟩, second_done, rest⟩ := Work.exec_bind_eq_ok.mp rest
    obtain ⟨_, ⟨third, _⟩, third_done, migrated⟩ := Work.exec_bind_eq_ok.mp rest
    obtain rfl : third = second := Work.tick_of_ok third_done
    obtain rfl : third = first := Work.tick_of_ok second_done
    obtain rfl : third = file := Work.tick_of_ok first_done
    obtain ⟨rfl, version, idle⟩ := migrateTo_of_ok migrated
    exact .migrates _ version idle

/-- An opening without pending steps executes a fixed number of statements. -/
theorem takes_openStore (migrations : Migrations) {file : Database}
    (nothing : pendingSteps file.userVersion target = []) :
    Work.Takes (openStore migrations target) file idleStatements []
      { file with userVersion := target } := by
  have setting : Work.Takes (Work.execute (setUserVersion target)) file 1 ⟨⟩
      { file with userVersion := target } := Work.Takes.execute rfl
  have body : Work.Takes (do
      (pendingSteps file.userVersion target).forM fun step => (migrations step).forM Work.execute
      Work.execute (setUserVersion target)
      return pendingSteps file.userVersion target) file (0 + (1 + 0)) []
      { file with userVersion := target } := by
    rw [nothing]
    exact (Work.Takes.pure _ _).bind (setting.bind (Work.Takes.pure _ _))
  have settings : idleStatements = 1 + (1 + (1 + (1 + (0 + (1 + 0) + 2)))) := rfl
  rw [settings]
  refine (Work.Takes.tick file).bind ((Work.Takes.tick file).bind ((Work.Takes.tick file).bind ?_))
  exact Work.Takes.bind (Work.Takes.query rfl) body.transaction

theorem version_of_succeeds {file : Database} {opening : Opening}
    (succeeds : Succeeds ((openings migrations).transition file opening)) :
    ((openings migrations).transition file opening).after.userVersion = opening.target := by
  obtain ⟨steps, output⟩ := succeeds
  have result := opened migrations file opening
  unfold Mealy.transition at output ⊢
  generalize (openings migrations).step file opening = outcome at result output ⊢
  obtain ⟨_, after⟩ := outcome
  obtain rfl := output
  cases result with
  | migrates after version idle => exact version

/-- A file which is ahead is reached as long as the database lets the statements through. -/
theorem succeeds_iff (migrations : Migrations) {file : Database} {opening : Opening}
    (ahead : opening.target ≤ file.userVersion) :
    Succeeds ((openings migrations).transition file opening) ↔
      Work.LetsThrough opening.failsIn idleStatements := by
  rw [← (takes_openStore migrations (pendingSteps_eq_nil ahead)).exists_ok_iff]
  constructor
  · rintro ⟨steps, done⟩
    exact ⟨steps, _, Prod.ext done rfl⟩
  · rintro ⟨steps, after, done⟩
    exact ⟨steps, congrArg Prod.fst done⟩

/-- Whoever gets through to a file without being behind it has at least its version. -/
theorem NotAhead.le_target {file : Database} {opening : Opening}
    (notAhead : NotAhead file opening)
    (succeeds : Succeeds ((openings migrations).transition file opening)) :
    file.userVersion ≤ opening.target := by
  rcases notAhead with behind | fails
  · exact behind
  · by_contra ahead
    exact fails ((succeeds_iff migrations (not_le.mp ahead).le).mp succeeds)

end Opening

/-! ## Runs -/

section Runs

variable {migrations : Migrations} {file : Database} {events : List Opening}

/-- The steps executed in a run are above the version it starts from, and none is repeated. -/
theorem executed_once (guarded : ∀ step ∈ (openings migrations).trace file events,
      NotAhead step.before step.event) :
    (((openings migrations).trace file events).flatMap executed).Nodup ∧
      ∀ step ∈ ((openings migrations).trace file events).flatMap executed,
        file.userVersion < step := by
  induction events generalizing file with
  | nil => exact ⟨List.nodup_nil, fun _ member => absurd member List.not_mem_nil⟩
  | cons opening events ih =>
      rw [Mealy.trace_cons, List.forall_mem_cons] at guarded
      obtain ⟨first, later⟩ := guarded
      have once := ih later
      have result := opened migrations file opening
      have le_target := @NotAhead.le_target migrations _ _ first
      rw [Mealy.trace_cons, List.flatMap_cons]
      unfold executed Succeeds Mealy.transition at *
      generalize (openings migrations).step file opening = outcome at result once le_target ⊢
      obtain ⟨output, after⟩ := outcome
      cases result with
      | fails error => exact once
      | migrates after version idle =>
          obtain ⟨nodup, above⟩ := once
          have forwards : file.userVersion ≤ opening.target := le_target ⟨_, rfl⟩
          dsimp only at above
          rw [version] at above
          -- Later steps are above the version which these steps lead up to.
          refine ⟨List.nodup_append'.mpr ⟨pendingSteps_nodup, nodup, ?_⟩, fun step member => ?_⟩
          · intro step pending again
            obtain ⟨-, below, -⟩ := mem_pendingSteps.mp pending
            have beyond := above step again
            omega
          · rcases List.mem_append.mp member with pending | later
            · exact (mem_pendingSteps.mp pending).2.2
            · have beyond := above step later
              omega

/-- The versions of a file go their way exactly as long as no daemon gets through to a file which
is ahead of it. -/
theorem versionLaw_iff : VersionLaw migrations file events ↔
    ∀ step ∈ (openings migrations).trace file events, NotAhead step.before step.event := by
  constructor
  · intro law step member
    by_contra ahead
    obtain ⟨lower, reaches⟩ := not_or.mp ahead
    obtain ⟨front, opening, back, -, rfl⟩ := Mealy.mem_trace.mp member
    have below : opening.target < ((openings migrations).run file front).userVersion :=
      not_le.mp lower
    have succeeds := (succeeds_iff migrations below.le).mpr (not_not.mp reaches)
    have kept := law.never_lowered _ member succeeds
    exact absurd (kept.trans_eq (version_of_succeeds succeeds)) (not_le.mpr below)
  · intro guarded
    have each_opened : ∀ step ∈ (openings migrations).trace file events, Succeeds step →
        step.before.userVersion ≤ step.event.target ∧
          Opened step.before step.event step.output step.after := by
      intro step member succeeds
      have notAhead := guarded step member
      obtain ⟨front, opening, back, -, rfl⟩ := Mealy.mem_trace.mp member
      exact ⟨notAhead.le_target succeeds, opened migrations _ opening⟩
    refine ⟨fun step member succeeds => ?_, (executed_once guarded).1,
      fun step member succeeds ahead => ?_⟩
    all_goals
      obtain ⟨forwards, result⟩ := each_opened step member succeeds
      obtain ⟨before, opening, output, after⟩ := step
      obtain ⟨steps, rfl⟩ := succeeds
      dsimp only at *
    · cases result with
      | migrates after version idle => exact forwards.trans version.ge
    · cases result with
      | migrates after version idle =>
          rw [idle (pendingSteps_eq_nil ahead), ← le_antisymm forwards ahead]

end Runs

/-! ## A file of a newer daemon -/

/-- A newer daemon has left its version. -/
def newerFile : Database := { Database.empty with userVersion := 2, objects := schemaV1 }

/-- The daemon opens the file of a newer one. -/
theorem not_versionLaw_newerFile :
    ¬VersionLaw storeMigrations newerFile [⟨schemaVersion, none⟩] := by
  intro law
  have lowered := law.never_lowered _ List.mem_cons_self ⟨_, rfl⟩
  revert lowered
  decide

end TeamComm
