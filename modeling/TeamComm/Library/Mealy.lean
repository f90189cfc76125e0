import Mathlib.Data.List.Induction
import Mathlib.Data.List.Nodup
import Mathlib.Order.Defs.PartialOrder

/-!
# Runs of a deterministic machine

A machine answers each event with an output and a successor state.  A run is the list of events it
is fed; its trace records what each event did.  The rules below turn a fact about one step into a
fact about every run: an invariant, an invariant under a guard, an exact guard, a property which
stays once it holds, an invariant which may count on labels that never repeat, a potential which
steps use up, and a simulation by another machine.
-/

/-- A deterministic machine with one output for each event. -/
structure Mealy (State Event Output : Type*) where
  /-- Output and successor of one event. -/
  step : State → Event → Output × State

namespace Mealy

/-- One step of a run. -/
structure Transition (State Event Output : Type*) where
  /-- The state the event is processed in. -/
  before : State
  /-- The event. -/
  event : Event
  /-- The answer to the event. -/
  output : Output
  /-- The state the event leads to. -/
  after : State

variable {State Event Output : Type*} (machine : Mealy State Event Output)

/-- The step which an event takes in a state. -/
def transition (state : State) (event : Event) : Transition State Event Output :=
  ⟨state, event, (machine.step state event).1, (machine.step state event).2⟩

/-- The state reached by processing a list of events in order. -/
def run (state : State) : List Event → State
  | [] => state
  | event :: events => run (machine.step state event).2 events

/-- The steps taken while processing a list of events in order. -/
def trace (state : State) : List Event → List (Transition State Event Output)
  | [] => []
  | event :: events => machine.transition state event :: trace (machine.step state event).2 events

@[simp] theorem run_nil (state : State) : machine.run state [] = state := rfl

@[simp] theorem run_cons (state : State) (event : Event) (events : List Event) :
    machine.run state (event :: events) = machine.run (machine.step state event).2 events := rfl

@[simp] theorem trace_nil (state : State) : machine.trace state [] = [] := rfl

@[simp] theorem trace_cons (state : State) (event : Event) (events : List Event) :
    machine.trace state (event :: events) =
      machine.transition state event :: machine.trace (machine.step state event).2 events := rfl

theorem run_eq_foldl (state : State) (events : List Event) :
    machine.run state events =
      events.foldl (fun state event => (machine.step state event).2) state := by
  induction events generalizing state with
  | nil => rfl
  | cons event events ih => exact ih _

theorem run_append (state : State) (front back : List Event) :
    machine.run state (front ++ back) = machine.run (machine.run state front) back := by
  induction front generalizing state with
  | nil => rfl
  | cons event front ih => simp [ih]

theorem run_snoc (state : State) (events : List Event) (event : Event) :
    machine.run state (events ++ [event]) =
      (machine.step (machine.run state events) event).2 := by
  simp [run_append]

theorem trace_append (state : State) (front back : List Event) :
    machine.trace state (front ++ back) =
      machine.trace state front ++ machine.trace (machine.run state front) back := by
  induction front generalizing state with
  | nil => rfl
  | cons event front ih => simp [ih]

theorem trace_snoc (state : State) (events : List Event) (event : Event) :
    machine.trace state (events ++ [event]) =
      machine.trace state events ++ [machine.transition (machine.run state events) event] := by
  simp [trace_append]

/-- What is picked from the steps of a run grows with what is picked from the last. -/
theorem filterMap_trace_snoc {Picked : Type*} (pick : Transition State Event Output → Option Picked)
    (state : State) (events : List Event) (event : Event) :
    (machine.trace state (events ++ [event])).filterMap pick =
      (machine.trace state events).filterMap pick ++
        (pick (machine.transition (machine.run state events) event)).toList := by
  rw [trace_snoc, List.filterMap_append]
  cases picked : pick (machine.transition (machine.run state events) event) with
  | none => rw [List.filterMap_cons_none picked, List.filterMap_nil, Option.toList_none]
  | some here => rw [List.filterMap_cons_some picked, List.filterMap_nil, Option.toList_some]

theorem trace_map_event (state : State) (events : List Event) :
    (machine.trace state events).map Transition.event = events := by
  induction events generalizing state with
  | nil => rfl
  | cons event events ih => simp [ih, transition]

variable {machine} {state : State} {events : List Event}

/-- A step of a run is taken in the state which the events in front of it reach. -/
theorem mem_trace {step : Transition State Event Output} :
    step ∈ machine.trace state events ↔ ∃ front event back, events = front ++ event :: back ∧
      step = machine.transition (machine.run state front) event := by
  constructor
  · intro member
    induction events generalizing state with
    | nil => simp at member
    | cons event events ih =>
        rcases List.mem_cons.mp member with rfl | later
        · exact ⟨[], event, events, rfl, rfl⟩
        · obtain ⟨front, inner, back, rfl, same⟩ := ih later
          exact ⟨event :: front, inner, back, rfl, same⟩
  · rintro ⟨front, event, back, rfl, rfl⟩
    simp [trace_append]

/-- A step of a run gives out what the machine gives out. -/
theorem output_of_mem_trace {step : Transition State Event Output}
    (member : step ∈ machine.trace state events) :
    step.output = (machine.step step.before step.event).1 := by
  obtain ⟨front, event, back, rfl, rfl⟩ := mem_trace.mp member
  rfl

/-- Two steps of a run are related as soon as any event is related to any later one. -/
theorem pairwise_trace
    {related : Transition State Event Output → Transition State Event Output → Prop}
    (each : ∀ front event between later back, events = front ++ event :: between ++ later :: back →
      related (machine.transition (machine.run state front) event)
        (machine.transition (machine.run state (front ++ event :: between)) later)) :
    (machine.trace state events).Pairwise related := by
  induction events using List.reverseRecOn with
  | nil => exact List.Pairwise.nil
  | append_singleton events last ih =>
      rw [trace_snoc, List.pairwise_append]
      refine ⟨ih ?_, List.pairwise_singleton _ _, ?_⟩
      · intro front event between later back same
        exact each front event between later (back ++ [last]) (by simp [same])
      · intro step member other other_last
        obtain rfl := List.mem_singleton.mp other_last
        obtain ⟨front, event, between, rfl, rfl⟩ := mem_trace.mp member
        exact each front event between last [] rfl

/-- Every state reached on the way, both ends included, satisfies `holds`. -/
def Always (machine : Mealy State Event Output) (holds : State → Prop) (state : State)
    (events : List Event) : Prop :=
  ∀ front, front <+: events → holds (machine.run state front)

/-- An invariant holds after every run. -/
theorem invariant {holds : State → Prop} (initial : holds state)
    (preserve : ∀ state event, holds state → holds (machine.step state event).2)
    (events : List Event) : holds (machine.run state events) := by
  induction events generalizing state with
  | nil => exact initial
  | cons event events ih => exact ih (preserve state event initial)

/-- A guard which is exact for a property wherever an invariant holds, and which preserves the
invariant, marks whether the property holds throughout the run. -/
theorem property_iff_guarded {invariant holds : List Event → State → Prop}
    {guard : State → Event → Prop} (initial : invariant [] state) (start : holds [] state)
    (exact_guard : ∀ front event back, events = front ++ event :: back →
      invariant front (machine.run state front) →
      (holds (front ++ [event]) (machine.step (machine.run state front) event).2 ↔
        guard (machine.run state front) event))
    (preserve : ∀ front event back, events = front ++ event :: back →
      invariant front (machine.run state front) → guard (machine.run state front) event →
      invariant (front ++ [event]) (machine.step (machine.run state front) event).2) :
    (∀ front, front <+: events → holds front (machine.run state front)) ↔
      ∀ step ∈ machine.trace state events, guard step.before step.event := by
  -- Whatever provides the guard of each step provides the invariant in front of it.
  have reached : ∀ front, front <+: events →
      (∀ earlier event between, front = earlier ++ event :: between →
        invariant earlier (machine.run state earlier) → guard (machine.run state earlier) event) →
      invariant front (machine.run state front) := by
    intro front
    induction front using List.reverseRecOn with
    | nil => exact fun _ _ => initial
    | append_singleton front event ih =>
        rintro ⟨back, whole⟩ guarded
        rw [List.append_assoc] at whole
        have before := ih ⟨_, whole⟩ fun earlier other between split =>
          guarded earlier other (between ++ [event]) (by simp [split])
        rw [run_snoc]
        exact preserve front event back whole.symm before (guarded front event [] rfl before)
  constructor
  · intro always step member
    obtain ⟨front, event, back, rfl, rfl⟩ := mem_trace.mp member
    have guarded_at : ∀ earlier other between,
        front ++ event :: back = earlier ++ other :: between →
        invariant earlier (machine.run state earlier) →
        guard (machine.run state earlier) other := by
      intro earlier other between whole before
      refine (exact_guard earlier other between whole before).mp ?_
      rw [← run_snoc]
      exact always (earlier ++ [other]) ⟨between, by simp [whole]⟩
    refine guarded_at front event back rfl (reached front (List.prefix_append _ _) ?_)
    exact fun earlier other between split =>
      guarded_at earlier other (between ++ event :: back) (by simp [split])
  · intro guarded front
    have guarded_at : ∀ earlier event between, events = earlier ++ event :: between →
        guard (machine.run state earlier) event := fun earlier event between whole =>
      guarded _ (mem_trace.mpr ⟨earlier, event, between, whole, rfl⟩)
    induction front using List.reverseRecOn with
    | nil => exact fun _ => start
    | append_singleton front event =>
        rintro ⟨back, whole⟩
        rw [List.append_assoc] at whole
        have before := reached front ⟨_, whole⟩ fun earlier other between split _ =>
          guarded_at earlier other (between ++ event :: back) (by simp [← whole, split])
        rw [run_snoc]
        exact (exact_guard front event back whole.symm before).mpr
          (guarded_at front event back whole.symm)

/-- A guard which is exact on the steps of a run marks whether an invariant over the events so far
holds throughout the run. -/
theorem history_iff_guarded {holds : List Event → State → Prop} {guard : State → Event → Prop}
    (initial : holds [] state)
    (exact_guard : ∀ front event back, events = front ++ event :: back →
      holds front (machine.run state front) →
      (holds (front ++ [event]) (machine.step (machine.run state front) event).2 ↔
        guard (machine.run state front) event)) :
    (∀ front, front <+: events → holds front (machine.run state front)) ↔
      ∀ step ∈ machine.trace state events, guard step.before step.event :=
  property_iff_guarded initial initial exact_guard fun front event back whole before guarded =>
    (exact_guard front event back whole before).mpr guarded

/-- An invariant over the events so far holds throughout a run whose steps preserve it. -/
theorem history_invariant {holds : List Event → State → Prop} (initial : holds [] state)
    (preserve : ∀ front event back, events = front ++ event :: back →
      holds front (machine.run state front) →
      holds (front ++ [event]) (machine.step (machine.run state front) event).2) :
    ∀ front, front <+: events → holds front (machine.run state front) := by
  let unguarded (_ : State) (_ : Event) : Prop := True
  suffices guarded : ∀ step ∈ machine.trace state events, unguarded step.before step.event by
    refine (history_iff_guarded initial ?_).mpr guarded
    exact fun front event back whole before =>
      iff_true_intro (preserve front event back whole before)
  exact fun _ _ => trivial

/-- An invariant which survives guarded steps holds throughout every guarded run. -/
theorem always_of_guarded {holds : State → Prop} {guard : State → Event → Prop}
    (initial : holds state)
    (preserve : ∀ state event, holds state → guard state event → holds (machine.step state event).2)
    (guarded : ∀ step ∈ machine.trace state events, guard step.before step.event) :
    machine.Always holds state events := by
  rintro front ⟨back, rfl⟩
  induction front generalizing state with
  | nil => exact initial
  | cons event front ih =>
      have first := guarded (machine.transition state event) List.mem_cons_self
      exact ih (preserve state event initial first) fun step member =>
        guarded step (List.mem_cons_of_mem _ member)

/-- A guard which is exact on the steps of a run marks whether the run keeps the invariant
throughout. -/
theorem always_iff_guarded {holds : State → Prop} {guard : State → Event → Prop}
    (initial : holds state)
    (exact_guard : ∀ step ∈ machine.trace state events, holds step.before →
      (holds step.after ↔ guard step.before step.event)) :
    machine.Always holds state events ↔
      ∀ step ∈ machine.trace state events, guard step.before step.event := by
  let over_history (_ : List Event) (state : State) : Prop := holds state
  change (∀ front, front <+: events → over_history front (machine.run state front)) ↔ _
  refine history_iff_guarded initial fun front event back whole before => ?_
  exact exact_guard _ (mem_trace.mpr ⟨front, event, back, whole, rfl⟩) before

/-! ## Properties which stay -/

/-- Wherever the property holds in a run, it holds from there on. -/
def Persists (machine : Mealy State Event Output) (holds : State → Prop) (state : State)
    (events : List Event) : Prop :=
  ∀ front later, front <+: later → later <+: events →
    holds (machine.run state front) → holds (machine.run state later)

/-- A property stays exactly when no step takes it away. -/
theorem persists_iff {holds : State → Prop} : machine.Persists holds state events ↔
    ∀ step ∈ machine.trace state events, holds step.before → holds step.after := by
  constructor
  · intro persists step member here
    obtain ⟨front, event, back, rfl, rfl⟩ := mem_trace.mp member
    have there := persists front (front ++ [event]) (List.prefix_append _ _) ⟨back, by simp⟩ here
    rwa [run_snoc] at there
  · rintro kept front later ⟨middle, rfl⟩ inside here
    induction middle using List.reverseRecOn with
    | nil => simpa using here
    | append_singleton middle event ih =>
        obtain ⟨back, rfl⟩ := inside
        have before := ih ⟨event :: back, by simp⟩
        rw [← List.append_assoc, run_snoc]
        exact kept _ (mem_trace.mpr ⟨front ++ middle, event, back, by simp, rfl⟩) before

/-- A property which nothing takes away, and which some steps bring about, holds exactly after a run
with such a step. -/
theorem latched_iff (holds : State → Prop) {brings : Transition State Event Output → Prop}
    (start : ¬holds state) (each : ∀ step ∈ machine.trace state events,
      (holds step.after ↔ holds step.before ∨ brings step)) :
    holds (machine.run state events) ↔ ∃ step ∈ machine.trace state events, brings step := by
  induction events using List.reverseRecOn with
  | nil => exact iff_of_false start (by simp)
  | append_singleton events event ih =>
      rw [trace_snoc] at each ⊢
      have last := each (machine.transition (machine.run state events) event) (by simp)
      have earlier := ih fun step member => each step (List.mem_append_left _ member)
      change holds (machine.step _ event).2 ↔ holds (machine.run state events) ∨ _ at last
      rw [run_snoc, last, earlier]
      simp only [List.mem_append, List.mem_singleton, or_and_right, exists_or, exists_eq_left]

/-! ## Labels that never repeat -/

section Labels

variable {Label : Type*} {label : Event → Label}

/-- Events of a run carry pairwise distinct labels. -/
def Fresh (label : Event → Label) (events : List Event) : Prop := (events.map label).Nodup

instance [DecidableEq Label] (events : List Event) : Decidable (Fresh label events) :=
  inferInstanceAs (Decidable (events.map label).Nodup)

theorem Fresh.front {front back : List Event} (fresh : Fresh label (front ++ back)) :
    Fresh label front := by
  unfold Fresh at fresh ⊢
  rw [List.map_append] at fresh
  exact fresh.of_append_left

/-- A label which a front part spends does not come back. -/
theorem Fresh.ne {front back : List Event} (fresh : Fresh label (front ++ back)) {spent : Label}
    (member : spent ∈ front.map label) {later : Event} (later_member : later ∈ back) :
    label later ≠ spent := by
  unfold Fresh at fresh
  rw [List.map_append] at fresh
  exact fun same =>
    (List.nodup_append.mp fresh).2.2 _ member _ (List.mem_map_of_mem later_member) same.symm

theorem Fresh.not_mem {front back : List Event} {event : Event}
    (fresh : Fresh label (front ++ event :: back)) : label event ∉ front.map label :=
  fun member => fresh.ne member List.mem_cons_self rfl

/-- An invariant over the labels spent so far holds after every run with fresh labels. -/
theorem invariant_fresh {holds : List Label → State → Prop} (initial : holds [] state)
    (preserve : ∀ spent state event, holds spent state → label event ∉ spent →
      holds (spent ++ [label event]) (machine.step state event).2)
    (fresh : Fresh label events) : holds (events.map label) (machine.run state events) := by
  induction events using List.reverseRecOn with
  | nil => exact initial
  | append_singleton events event ih =>
      rw [run_snoc, List.map_append]
      exact preserve _ _ _ (ih fresh.front) fresh.not_mem

end Labels

/-! ## Overwritten values -/

section Overwritten

variable {Stamp : Type*} [Preorder Stamp] {value : State → Option Stamp}
  {written : Transition State Event Output → Option Stamp} {first : Stamp}

/-- A value which steps overwrite never decreases exactly when what they write is in order. -/
theorem never_decreases_iff (start : value state = some first)
    (follows : ∀ step ∈ machine.trace state events, ∀ old, value step.before = some old →
      value step.after = some ((written step).getD old)) :
    (∀ step ∈ machine.trace state events,
        ∀ old ∈ value step.before, ∀ new ∈ value step.after, old ≤ new) ↔
      (first :: (machine.trace state events).filterMap written).Pairwise (· ≤ ·) := by
  induction events generalizing state first with
  | nil => simp
  | cons event events ih =>
      have here := follows (machine.transition state event) List.mem_cons_self first start
      have later := ih here fun step member => follows step (List.mem_cons_of_mem _ member)
      rw [trace_cons, List.forall_mem_cons]
      change _ ∧ (∀ step ∈ machine.trace (machine.transition state event).after events, _) ↔ _
      rw [later]
      have step_iff : (∀ old ∈ value (machine.transition state event).before,
          ∀ new ∈ value (machine.transition state event).after, old ≤ new) ↔
            first ≤ (written (machine.transition state event)).getD first := by
        rw [here, show value (machine.transition state event).before = some first from start]
        simp
      rw [step_iff]
      cases write : written (machine.transition state event) with
      | none =>
          rw [List.filterMap_cons_none write]
          exact and_iff_right le_rfl
      | some stamp =>
          rw [List.filterMap_cons_some write, List.pairwise_cons, List.pairwise_cons,
            List.pairwise_cons, Option.getD_some]
          constructor
          · rintro ⟨below, above, rest⟩
            refine ⟨List.forall_mem_cons.mpr ⟨below, ?_⟩, above, rest⟩
            exact fun later member => le_trans below (above later member)
          · rintro ⟨below, above, rest⟩
            exact ⟨below stamp List.mem_cons_self, above, rest⟩

end Overwritten

/-! ## Potentials -/

section Potentials

variable {Picked : Type*} {pick : Transition State Event Output → Option Picked}
  {ticks : Event → Bool} {potential : State → Nat}

/-- Whatever costs some potential happens no more often than there is potential. -/
theorem length_filterMap_le_potential (spends : ∀ step ∈ machine.trace state events,
      (pick step).toList.length + potential step.after ≤ potential step.before) :
    ((machine.trace state events).filterMap pick).length + potential (machine.run state events) ≤
      potential state := by
  induction events using List.reverseRecOn with
  | nil => simp
  | append_singleton events event ih =>
      have here := spends (machine.transition (machine.run state events) event)
        (by rw [trace_snoc]; exact List.mem_append_right _ List.mem_cons_self)
      have earlier := ih fun step member =>
        spends step (by rw [trace_snoc]; exact List.mem_append_left _ member)
      rw [filterMap_trace_snoc, run_snoc, List.length_append]
      change _ + potential (machine.step _ event).2 ≤ potential (machine.run state events) at here
      omega

/-- A potential which nothing raises and each tick lowers is used up by as many ticks. -/
theorem potential_run_le (lowers : ∀ step ∈ machine.trace state events,
      potential step.after ≤ potential step.before - if ticks step.event then 1 else 0) :
    potential (machine.run state events) ≤ potential state - events.countP ticks := by
  induction events using List.reverseRecOn with
  | nil => simp
  | append_singleton events event ih =>
      have here := lowers (machine.transition (machine.run state events) event)
        (by rw [trace_snoc]; exact List.mem_append_right _ List.mem_cons_self)
      have earlier := ih fun step member =>
        lowers step (by rw [trace_snoc]; exact List.mem_append_left _ member)
      change potential (machine.step _ event).2 ≤
        potential (machine.run state events) - if ticks event then 1 else 0 at here
      rw [run_snoc, List.countP_append, List.countP_singleton]
      omega

end Potentials

/-! ## Simulation -/

section Simulation

variable {State' Event' Output' : Type*} {other : Mealy State' Event' Output'}
  {abstract : State → State'} {translate : Transition State Event Output → Event'}

/-- A machine which can follow each step of a run follows the run. -/
theorem run_simulation (follow : ∀ step ∈ machine.trace state events,
      (other.step (abstract step.before) (translate step)).2 = abstract step.after) :
    other.run (abstract state) ((machine.trace state events).map translate) =
      abstract (machine.run state events) := by
  induction events generalizing state with
  | nil => rfl
  | cons event events ih =>
      have first := follow (machine.transition state event) List.mem_cons_self
      rw [trace_cons, List.map_cons, run_cons]
      change
        (other.step (abstract state) (translate (machine.transition state event))).2 = _ at first
      rw [first]
      exact ih fun step member => follow step (List.mem_cons_of_mem _ member)

/-- The steps of the following machine are the images of the steps it follows. -/
theorem trace_simulation (follow : ∀ step ∈ machine.trace state events,
      (other.step (abstract step.before) (translate step)).2 = abstract step.after) :
    other.trace (abstract state) ((machine.trace state events).map translate) =
      (machine.trace state events).map fun step =>
        other.transition (abstract step.before) (translate step) := by
  induction events generalizing state with
  | nil => rfl
  | cons event events ih =>
      have first := follow (machine.transition state event) List.mem_cons_self
      rw [trace_cons, List.map_cons, List.map_cons, trace_cons]
      change
        (other.step (abstract state) (translate (machine.transition state event))).2 = _ at first
      rw [first]
      exact congrArg _ (ih fun step member => follow step (List.mem_cons_of_mem _ member))

/-- A machine which follows the steps it can tell, and stands still at others, follows the run. -/
theorem run_stuttering {tell : Transition State Event Output → Option Event'}
    (stutter : ∀ step ∈ machine.trace state events, tell step = none →
      abstract step.after = abstract step.before)
    (follow : ∀ step ∈ machine.trace state events, ∀ told, tell step = some told →
      (other.step (abstract step.before) told).2 = abstract step.after) :
    other.run (abstract state) ((machine.trace state events).filterMap tell) =
      abstract (machine.run state events) := by
  induction events generalizing state with
  | nil => rfl
  | cons event events ih =>
      have here : machine.transition state event ∈ machine.trace state (event :: events) :=
        List.mem_cons_self
      have later := ih (fun step member => stutter step (List.mem_cons_of_mem _ member))
        fun step member => follow step (List.mem_cons_of_mem _ member)
      rw [trace_cons, run_cons]
      cases told : tell (machine.transition state event) with
      | none =>
          rw [List.filterMap_cons_none told, ← later]
          exact congrArg (other.run · _) (stutter _ here told).symm
      | some happened =>
          rw [List.filterMap_cons_some told, run_cons, ← later]
          exact congrArg (other.run · _) (follow _ here happened told)

end Simulation

end Mealy
