import Mathlib.Data.List.Nodup

/-!
# Handing out items in one pass

A single pass down a list hands out the wanted items, as many as a quota allows, and marks them
where they stand.  Where a key tells the items apart, three passes do the same: collect the keys of
the items to hand out, mark the items whose key was collected, and pick the marked items by key.
-/

namespace Handout

variable {Item : Type*} (wanted : Item → Bool) (mark : Item → Item)

/-- The items handed out, and the list they leave behind. -/
def onePass : Nat → List Item → List Item × List Item
  | _, [] => ([], [])
  | 0, items => ([], items)
  | quota + 1, item :: items =>
      if wanted item then
        let (out, left) := onePass quota items
        (mark item :: out, mark item :: left)
      else
        let (out, left) := onePass (quota + 1) items
        (out, item :: left)

/-- What is handed out are the first wanted items, in order. -/
theorem onePass_out (quota : Nat) (items : List Item) :
    (onePass wanted mark quota items).1 = ((items.filter wanted).take quota).map mark := by
  fun_induction onePass wanted mark quota items with
  | case1 => simp
  | case2 => simp
  | case3 quota item items accepted out left pass ih =>
      rw [pass] at ih
      rw [List.filter_cons_of_pos accepted, List.take_succ_cons, List.map_cons, ← ih]
  | case4 quota item items refused out left pass ih =>
      rw [pass] at ih
      rw [List.filter_cons_of_neg refused, ← ih]

section Keyed

variable {Key : Type*} [DecidableEq Key] (key : Item → Key)

/-- Mark the items with a listed key. -/
def markListed (listed : List Key) (items : List Item) : List Item :=
  items.map fun item => if key item ∈ listed then mark item else item

variable {key} {mark}

/-- Keys which occur nowhere in a list mark nothing in it. -/
private theorem markListed_cons_of_absent {absent : Key} {items : List Item} (listed : List Key)
    (missing : absent ∉ items.map key) :
    markListed mark key (absent :: listed) items = markListed mark key listed items := by
  apply List.map_congr_left
  intro item member
  have different : key item ≠ absent := fun same => missing (same ▸ List.mem_map_of_mem member)
  simp [different]

private theorem filter_cons_of_absent {absent : Key} {items : List Item} (listed : List Key)
    (missing : absent ∉ items.map key) :
    items.filter (fun item => key item ∈ absent :: listed) =
      items.filter fun item => key item ∈ listed := by
  apply List.filter_congr
  intro item member
  have different : key item ≠ absent := fun same => missing (same ▸ List.mem_map_of_mem member)
  simp [different]

theorem map_key_markListed (same_key : ∀ item, key (mark item) = key item) (listed : List Key)
    (items : List Item) : (markListed mark key listed items).map key = items.map key := by
  rw [markListed, List.map_map]
  apply List.map_congr_left
  intro item _
  simp only [Function.comp_apply]
  split
  · exact same_key item
  · rfl

/-- Collecting keys, marking by key and picking by key is a single pass. -/
theorem threePasses_eq_onePass (same_key : ∀ item, key (mark item) = key item) {items : List Item}
    (distinct : (items.map key).Nodup) {quota : Nat} {listed : List Key}
    (collected : listed = ((items.filter wanted).take quota).map key) :
    ((markListed mark key listed items).filter (fun item => key item ∈ listed),
      markListed mark key listed items) = onePass wanted mark quota items := by
  fun_induction onePass wanted mark quota items generalizing listed with
  | case1 => rfl
  | case2 _ items =>
      have nothing : listed = [] := by simpa using collected
      simp [nothing, markListed]
  | case3 quota item items accepted out left pass ih =>
      rw [List.map_cons, List.nodup_cons] at distinct
      rw [List.filter_cons_of_pos accepted, List.take_succ_cons, List.map_cons] at collected
      subst collected
      have tail := ih distinct.2 rfl
      rw [pass, Prod.mk.injEq] at tail
      generalize ((items.filter wanted).take quota).map key = later at tail
      have tail_marked : markListed mark key (key item :: later) items = left := by
        rw [markListed_cons_of_absent later distinct.1, tail.2]
      have missing : key item ∉ left.map key := by
        rw [← tail.2, map_key_markListed same_key]
        exact distinct.1
      have head_marked : markListed mark key (key item :: later) (item :: items) =
          mark item :: left := by
        rw [markListed, List.map_cons, ← markListed, tail_marked]
        simp
      rw [head_marked, List.filter_cons_of_pos (by simp [same_key]),
        filter_cons_of_absent later missing, ← tail.1, tail.2]
  | case4 quota item items refused out left pass ih =>
      rw [List.map_cons, List.nodup_cons] at distinct
      rw [List.filter_cons_of_neg refused] at collected
      have tail := ih distinct.2 collected
      rw [pass, Prod.mk.injEq] at tail
      have missing : key item ∉ listed := by
        intro member
        rw [collected] at member
        obtain ⟨other, taken, same⟩ := List.mem_map.mp member
        have stored := (List.mem_filter.mp (List.mem_of_mem_take taken)).1
        exact distinct.1 (same ▸ List.mem_map_of_mem stored)
      have head_marked : markListed mark key listed (item :: items) = item :: left := by
        rw [markListed, List.map_cons, ← markListed, tail.2, if_neg missing]
      rw [head_marked, List.filter_cons_of_neg (by simpa using missing), ← tail.1, tail.2]

end Keyed

end Handout
