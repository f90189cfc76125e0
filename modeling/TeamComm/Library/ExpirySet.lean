import Mathlib.Logic.Function.Basic
import TeamComm.Library.Mealy

/-!
# Sets with expiry

Items enter a set under a key and leave it again by that key.  Expiry is a matter of looking: an
item is visible at an instant when that instant lies before its expiry, and nothing ever removes an
expired one.  When every entry has a key of its own, a set holds exactly what entered and was never
made to leave, and a key leaves at most once.
-/

namespace ExpirySet

variable {Key Item Time : Type*}

/-- What happens to a set. -/
inductive Op (Key Item : Type*)
  /-- An item enters under a key. -/
  | enter (key : Key) (item : Item)
  /-- The item under a key is made to leave. -/
  | leave (key : Key)
  /-- Nothing happens. -/
  | idle

/-- The key under which an operation enters an item. -/
def Op.entered : Op Key Item → Option Key
  | .enter key _ => some key
  | _ => none

/-- The items a set shows at an instant. -/
def Shows [LT Time] (expires : Item → Time) (held : Key → Option Item) (now : Time) (item : Item) :
    Prop :=
  (∃ key, held key = some item) ∧ now < expires item

/-- The set no item has entered yet. -/
def empty : Key → Option Item := fun _ => none

/-- The operations enter every key at most once. -/
def EntersOnce (ops : List (Op Key Item)) : Prop := (ops.filterMap Op.entered).Nodup

variable {ops : List (Op Key Item)} {key : Key} {item : Item}

theorem EntersOnce.front {front back : List (Op Key Item)} (once : EntersOnce (front ++ back)) :
    EntersOnce front := by
  unfold EntersOnce at once ⊢
  rw [List.filterMap_append] at once
  exact once.of_append_left

/-- The last key to enter has not entered before. -/
theorem EntersOnce.last (once : EntersOnce (ops ++ [.enter key item])) (other : Item) :
    .enter key other ∉ ops := by
  unfold EntersOnce at once
  rw [List.filterMap_append] at once
  intro member
  have earlier : key ∈ ops.filterMap Op.entered := List.mem_filterMap.mpr ⟨_, member, rfl⟩
  exact (List.nodup_append.mp once).2.2 key earlier key (by simp [Op.entered]) rfl

/-- Keys which are labels of distinct steps enter once. -/
theorem EntersOnce.of_labels {Step : Type*} {steps : List Step} {op : Step → Op Key Item}
    {label : Step → Key} (distinct : (steps.map label).Nodup)
    (labelled : ∀ step key, (op step).entered = some key → key = label step) :
    EntersOnce (steps.map op) := by
  suffices fewer : ((steps.map op).filterMap Op.entered).Sublist (steps.map label) from
    distinct.sublist fewer
  clear distinct
  induction steps with
  | nil => exact List.Sublist.slnil
  | cons step steps ih =>
      rw [List.map_cons, List.map_cons, List.filterMap_cons]
      cases entered : (op step).entered with
      | none => exact ih.cons _
      | some key => exact labelled step key entered ▸ ih.cons_cons _

variable [DecidableEq Key]

/-- The set as a machine, which answers whether something left. -/
def machine : Mealy (Key → Option Item) (Op Key Item) Bool where
  step held
    | .enter key item => (false, Function.update held key (some item))
    | .leave key => ((held key).isSome, Function.update held key none)
    | .idle => (false, held)

section Steps

variable (held : Key → Option Item)

@[simp] theorem step_enter (key : Key) (item : Item) :
    machine.step held (.enter key item) = (false, Function.update held key (some item)) := rfl

@[simp] theorem step_leave (key : Key) :
    machine.step held (.leave key) = ((held key).isSome, Function.update held key none) := rfl

@[simp] theorem step_idle : machine.step held .idle = (false, held) := rfl

end Steps

/-- The item under a key leaves. -/
def Leaves (key : Key) (step : Mealy.Transition (Key → Option Item) (Op Key Item) Bool) : Prop :=
  step.event = .leave key ∧ step.output = true

theorem leaves_transition {held : Key → Option Item} {op : Op Key Item} :
    Leaves key (machine.transition held op) ↔ op = .leave key ∧ ∃ item, held key = some item := by
  constructor
  · rintro ⟨event, output⟩
    change op = .leave key at event
    subst event
    exact ⟨rfl, Option.isSome_iff_exists.mp output⟩
  · rintro ⟨rfl, found⟩
    exact ⟨rfl, Option.isSome_iff_exists.mpr found⟩

/-- What is held has entered. -/
theorem entered_of_held (held : machine.run empty ops key = some item) : .enter key item ∈ ops := by
  induction ops using List.reverseRecOn with
  | nil => cases held
  | append_singleton ops op ih =>
      rw [Mealy.run_snoc] at held
      rw [List.mem_append]
      cases op with
      | enter other new =>
          by_cases same : key = other
          · subst same
            right
            simpa [eq_comm] using held
          · left
            exact ih (by simpa [same] using held)
      | leave other =>
          by_cases same : key = other
          · simp [same] at held
          · left
            exact ih (by simpa [same] using held)
      | idle =>
          left
          exact ih held

/-- What leaves has entered before. -/
theorem entered_of_leaves {step : Mealy.Transition (Key → Option Item) (Op Key Item) Bool}
    (member : step ∈ machine.trace empty ops) (leaves : Leaves key step) :
    ∃ item, .enter key item ∈ ops := by
  obtain ⟨front, op, back, rfl, rfl⟩ := Mealy.mem_trace.mp member
  obtain ⟨-, item, held⟩ := leaves_transition.mp leaves
  exact ⟨item, List.mem_append_left _ (entered_of_held held)⟩

/-- A set holds what entered and never left. -/
theorem held_iff (once : EntersOnce ops) :
    machine.run empty ops key = some item ↔
      .enter key item ∈ ops ∧ ∀ step ∈ machine.trace empty ops, ¬Leaves key step := by
  induction ops using List.reverseRecOn with
  | nil => simp [empty]
  | append_singleton ops op ih =>
      have earlier := ih once.front
      rw [Mealy.run_snoc, Mealy.trace_snoc]
      simp only [List.mem_append, List.mem_singleton, or_imp, forall_and, forall_eq,
        leaves_transition]
      cases op with
      | enter other new =>
          by_cases same : key = other
          · subst same
            have unleft : ∀ step ∈ machine.trace empty ops, ¬Leaves key step :=
              fun step member leaves =>
                let ⟨_, entered⟩ := entered_of_leaves member leaves
                once.last _ entered
            simp [once.last item, eq_comm, and_iff_left unleft]
          · simp [same, earlier]
      | leave other =>
          by_cases same : key = other
          · subst same
            simp only [step_leave, Function.update_self, reduceCtorEq, or_false, false_iff]
            rintro ⟨entered, unleft, stays⟩
            exact stays ⟨trivial, item, earlier.mpr ⟨entered, unleft⟩⟩
          · simp [same, Ne.symm same, earlier]
      | idle => simp [earlier]

/-- A set shows what entered, never left and has not expired. -/
theorem shows_iff [LT Time] {expires : Item → Time} (once : EntersOnce ops) {now : Time} :
    Shows expires (machine.run empty ops) now item ↔
      ∃ key, .enter key item ∈ ops ∧ (∀ step ∈ machine.trace empty ops, ¬Leaves key step) ∧
        now < expires item := by
  constructor
  · rintro ⟨⟨key, held⟩, unexpired⟩
    obtain ⟨entered, unleft⟩ := (held_iff once).mp held
    exact ⟨key, entered, unleft, unexpired⟩
  · rintro ⟨key, entered, unleft, unexpired⟩
    exact ⟨⟨key, (held_iff once).mpr ⟨entered, unleft⟩⟩, unexpired⟩

/-- A key leaves at most once. -/
theorem leaves_once (once : EntersOnce ops) (key : Key) :
    (machine.trace empty ops).Pairwise fun step later => Leaves key step → ¬Leaves key later := by
  induction ops using List.reverseRecOn with
  | nil => exact List.Pairwise.nil
  | append_singleton ops op ih =>
      rw [Mealy.trace_snoc, List.pairwise_append]
      refine ⟨ih once.front, List.pairwise_singleton _ _, ?_⟩
      intro step member later last leaves leaves_later
      obtain rfl := List.mem_singleton.mp last
      obtain ⟨-, item, held⟩ := leaves_transition.mp leaves_later
      exact ((held_iff once.front).mp held).2 step member leaves

end ExpirySet
