import Mathlib.Data.Set.Insert
import Mathlib.Order.Defs.LinearOrder

/-!
# Leases

A lease grants a resource to a holder in a mode from one instant up to another.  The instants are
any linear order and the modes carry any symmetric conflict relation.  A scan for unexpired leases
at the moment of acquisition finds every lease that will ever be active together with the new one,
so a set of leases stays exclusive as long as only unblocked leases enter it.
-/

/-- A grant of a resource for a span of time. -/
structure Lease (Holder Resource Mode Time : Type*) where
  /-- Who holds the lease. -/
  holder : Holder
  /-- What is leased. -/
  resource : Resource
  /-- How strongly it is leased. -/
  mode : Mode
  /-- First instant of the lease. -/
  acquired : Time
  /-- First instant behind the lease. -/
  expires : Time

namespace Lease

variable {Holder Resource Mode Time : Type*} {conflict : Mode → Mode → Prop}
  {left right held fresh : Lease Holder Resource Mode Time}
  {leases others : Set (Lease Holder Resource Mode Time)}

/-- Leases of different holders on one resource whose modes conflict. -/
def Clash (conflict : Mode → Mode → Prop) (left right : Lease Holder Resource Mode Time) : Prop :=
  left.holder ≠ right.holder ∧ left.resource = right.resource ∧ conflict left.mode right.mode

theorem Clash.symm (symmetric : ∀ {one other}, conflict one other → conflict other one)
    (clash : Clash conflict left right) : Clash conflict right left :=
  ⟨clash.1.symm, clash.2.1.symm, symmetric clash.2.2⟩

variable [LinearOrder Time]

/-- The lease is in force. -/
def ActiveAt (lease : Lease Holder Resource Mode Time) (instant : Time) : Prop :=
  lease.acquired ≤ instant ∧ instant < lease.expires

/-- A scan at the moment `fresh` is acquired finds `held` in its way. -/
def Blocks (conflict : Mode → Mode → Prop) (held fresh : Lease Holder Resource Mode Time) : Prop :=
  Clash conflict fresh held ∧ fresh.acquired < held.expires

/-- No two clashing leases are ever active together. -/
def Exclusive (conflict : Mode → Mode → Prop) (leases : Set (Lease Holder Resource Mode Time)) :
    Prop :=
  ∀ left ∈ leases, ∀ right ∈ leases, Clash conflict left right →
    ∀ instant, ¬(left.ActiveAt instant ∧ right.ActiveAt instant)

/-- A lease outliving an instant of the fresh one was unexpired when the fresh one was acquired. -/
theorem blocks_of_outlives (clash : Clash conflict fresh held) {instant : Time}
    (started : fresh.acquired ≤ instant) (unexpired : instant < held.expires) :
    Blocks conflict held fresh :=
  ⟨clash, lt_of_le_of_lt started unexpired⟩

theorem Exclusive.mono (exclusive : Exclusive conflict leases) (fewer : others ⊆ leases) :
    Exclusive conflict others :=
  fun left left_member right right_member =>
    exclusive left (fewer left_member) right (fewer right_member)

/-- A lease which nothing blocks may enter. -/
theorem Exclusive.insert (symmetric : ∀ {one other}, conflict one other → conflict other one)
    (exclusive : Exclusive conflict leases)
    (unblocked : ∀ held ∈ leases, ¬Blocks conflict held fresh) :
    Exclusive conflict (insert fresh leases) := by
  intro left left_member right right_member clash instant together
  rcases left_member with rfl | left_held <;> rcases right_member with rfl | right_held
  · exact clash.1 rfl
  · exact unblocked right right_held
      (blocks_of_outlives clash together.1.1 together.2.2)
  · exact unblocked left left_held
      (blocks_of_outlives (clash.symm symmetric) together.2.1 together.1.2)
  · exact exclusive left left_held right right_held clash instant together

end Lease
