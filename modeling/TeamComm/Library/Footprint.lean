import TeamComm.Library.Mealy

/-!
# Footprints

A state is looked at cell by cell.  An event is local to a cell when it changes this cell only, and
according to what the cell held; its answer is local when it depends on no other cell.  Local events
at different cells commute, and no local answer shows which of them came first.
-/

namespace Mealy

variable {State Event Output Cell : Type*} {Content : Cell → Type*} [DecidableEq Cell]

/-- Inside some states, an event updates one cell and leaves the others. -/
structure LocalAt (machine : Mealy State Event Output) (inside : State → Prop)
    (look : State → (cell : Cell) → Content cell) (event : Event) (cell : Cell)
    (update : Content cell → Content cell) : Prop where
  /-- The event stays inside. -/
  stays : ∀ {state}, inside state → inside (machine.step state event).2
  /-- The event changes its cell. -/
  changes : ∀ {state}, inside state → look (machine.step state event).2 =
    Function.update (look state) cell (update (look state cell))

/-- Inside some states, the answer to an event depends on one cell. -/
def AnswersFrom (machine : Mealy State Event Output) (inside : State → Prop)
    (look : State → (cell : Cell) → Content cell) (event : Event) (cell : Cell)
    (answer : Content cell → Output) : Prop :=
  ∀ {state}, inside state → (machine.step state event).1 = answer (look state cell)

section Apart

variable {machine : Mealy State Event Output} {inside : State → Prop}
  {look : State → (cell : Cell) → Content cell} {left right : Event} {here there : Cell}
  {updateHere : Content here → Content here} {updateThere : Content there → Content there}
  {state : State}

/-- A local event is not seen from another cell. -/
theorem LocalAt.unseen (local_there : LocalAt machine inside look right there updateThere)
    (apart : here ≠ there) (start : inside state) :
    look (machine.step state right).2 here = look state here := by
  rw [local_there.changes start]
  exact Function.update_of_ne apart _ _

/-- Local events at different cells commute. -/
theorem LocalAt.commute (local_here : LocalAt machine inside look left here updateHere)
    (local_there : LocalAt machine inside look right there updateThere) (apart : here ≠ there)
    (start : inside state) :
    look (machine.run state [left, right]) = look (machine.run state [right, left]) := by
  change look (machine.step (machine.step state left).2 right).2 =
    look (machine.step (machine.step state right).2 left).2
  calc
    look (machine.step (machine.step state left).2 right).2
        = Function.update (look (machine.step state left).2) there
            (updateThere (look (machine.step state left).2 there)) :=
          local_there.changes (local_here.stays start)
    _ = Function.update (Function.update (look state) here (updateHere (look state here))) there
            (updateThere (look state there)) := by
          rw [local_here.unseen apart.symm start, local_here.changes start]
    _ = Function.update (Function.update (look state) there (updateThere (look state there))) here
            (updateHere (look state here)) :=
          Function.update_comm apart _ _ _
    _ = Function.update (look (machine.step state right).2) here
            (updateHere (look (machine.step state right).2 here)) := by
          rw [local_there.unseen apart start, local_there.changes start]
    _ = look (machine.step (machine.step state right).2 left).2 :=
          (local_here.changes (local_there.stays start)).symm

/-- A local answer does not show whether an event at another cell came first. -/
theorem LocalAt.same_answer {answer : Content here → Output}
    (answers : AnswersFrom machine inside look left here answer)
    (local_there : LocalAt machine inside look right there updateThere) (apart : here ≠ there)
    (start : inside state) :
    (machine.step (machine.step state right).2 left).1 = (machine.step state left).1 := by
  rw [answers (local_there.stays start), answers start, local_there.unseen apart start]

end Apart

end Mealy
