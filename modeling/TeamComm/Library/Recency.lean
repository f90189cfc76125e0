import Mathlib.Data.List.TakeWhile

/-!
# Order of last occurrence

In a history in which entries recur, one entry is later than another when it occurs behind the
other's last occurrence.  Among finitely many entries some entry is the latest.
-/

namespace List

variable {α : Type*} [DecidableEq α] {history : List α} {entry other : α}

/-- What occurs behind the last occurrence of an entry, the newest in front. -/
def since (history : List α) (entry : α) : List α :=
  history.reverse.takeWhile fun later => later ≠ entry

/-- Nothing is later than the newest entry, and the newest entry is later than every other one. -/
theorem since_snoc (history : List α) (newest entry : α) :
    (history ++ [newest]).since entry =
      if newest = entry then [] else newest :: history.since entry := by
  rw [since, reverse_append, reverse_singleton, singleton_append, takeWhile_cons]
  by_cases same : newest = entry <;> simp [same, since]

private theorem takeWhile_ne_of_mem {entries : List α}
    (member : other ∈ entries.takeWhile fun later => later ≠ entry) :
    ∃ between, entries.takeWhile (fun later => later ≠ entry) =
      entries.takeWhile (fun later => later ≠ other) ++ other :: between := by
  induction entries with
  | nil => simp at member
  | cons head tail ih =>
      by_cases last : head = entry
      · simp [last] at member
      · rw [takeWhile_cons_of_pos (by simpa using last)] at member ⊢
        by_cases here : head = other
        · exact ⟨tail.takeWhile fun later => later ≠ entry, by simp [here]⟩
        · obtain ⟨between, split⟩ := ih ((mem_cons.mp member).resolve_left fun same =>
            here same.symm)
          exact ⟨between, by rw [takeWhile_cons_of_pos (by simpa using here), split, cons_append]⟩

/-- What is later than a later entry is later. -/
theorem since_eq_append (later : other ∈ history.since entry) :
    ∃ between, history.since entry = history.since other ++ other :: between :=
  takeWhile_ne_of_mem later

/-- Among the entries which pass a test, one is no older than a given one and has none behind it. -/
theorem exists_latest (history : List α) {passes : α → Prop} (entry_passes : passes entry) :
    ∃ latest, passes latest ∧ (latest = entry ∨ latest ∈ history.since entry) ∧
      ∀ later ∈ history.since latest, ¬passes later := by
  -- The induction is on how much is later than the entry.
  induction size : (history.since entry).length using Nat.strong_induction_on
    generalizing entry with
  | h count ih =>
      by_cases newer : ∃ later ∈ history.since entry, passes later
      · obtain ⟨later, member, later_passes⟩ := newer
        obtain ⟨between, split⟩ := since_eq_append member
        have shorter : (history.since later).length < count := by
          rw [← size, split, length_append, length_cons]
          omega
        obtain ⟨latest, latest_passes, reached, none_later⟩ := ih _ shorter later_passes rfl
        refine ⟨latest, latest_passes, Or.inr ?_, none_later⟩
        rw [split, mem_append, mem_cons]
        rcases reached with rfl | behind
        · exact Or.inr (Or.inl rfl)
        · exact Or.inl behind
      · exact ⟨entry, entry_passes, Or.inl rfl, fun later member passes =>
          newer ⟨later, member, passes⟩⟩

end List
