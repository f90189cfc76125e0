import Mathlib.Logic.Function.Basic
import TeamComm.Daemon.DbRows

/-!
# The agent type column

A custom name is stored behind a tag of its own, so no name is confused with a known agent, with a
bare `custom` or with a tagged name.  Older texts are decoded as names and stored behind the tag
from then on.
-/

namespace TeamComm

theorem agentTypeToString_injective : Function.Injective agentTypeToString :=
  Function.LeftInverse.injective agentTypeFromString_toString

/-- What is written into the column. -/
def CanonicalText (text : String) : Prop :=
  text ∈ ["forge", "codex", "claude", "copilot"] ∨ ∃ name, text = "custom:" ++ name

theorem exists_agentType_iff {text : String} :
    (∃ agentType, agentTypeToString agentType = text) ↔ CanonicalText text := by
  constructor
  · rintro ⟨agentType, rfl⟩
    cases agentType with
    | custom name => exact Or.inr ⟨name, rfl⟩
    | _ => exact Or.inl (by decide)
  · rintro (known | ⟨name, rfl⟩)
    · simp only [List.mem_cons, List.not_mem_nil, or_false] at known
      rcases known with rfl | rfl | rfl | rfl
      exacts [⟨.forge, rfl⟩, ⟨.codex, rfl⟩, ⟨.claude, rfl⟩, ⟨.copilot, rfl⟩]
    · exact ⟨.custom name, rfl⟩

/-- Exactly the texts which are written stay as they are when they are written again. -/
theorem rewritten_eq_iff {text : String} :
    agentTypeToString (agentTypeFromString text) = text ↔ CanonicalText text := by
  rw [← exists_agentType_iff]
  constructor
  · exact fun same => ⟨_, same⟩
  · rintro ⟨agentType, rfl⟩
    rw [agentTypeFromString_toString]

/-- Any other text but a bare `custom` is stored behind the tag. -/
theorem rewritten_of_not_canonical {text : String} (legacy : ¬CanonicalText text)
    (named : text ≠ "custom") :
    agentTypeToString (agentTypeFromString text) = "custom:" ++ text := by
  have untagged : stripFront text "custom:" = none := by
    by_contra tagged
    obtain ⟨rest, found⟩ := Option.ne_none_iff_exists'.mp tagged
    unfold stripFront at found
    split at found
    next starts =>
      obtain ⟨rest, text_eq⟩ := List.isPrefixOf_iff_prefix.mp starts
      refine legacy (Or.inr ⟨String.ofList rest, String.toList_inj.mp ?_⟩)
      have chars : (String.ofList rest).toList = rest := String.toList_ofList
      rw [String.toList_append, chars, text_eq]
    next => cases found
  unfold CanonicalText at legacy
  simp only [List.mem_cons, List.not_mem_nil, or_false, not_or] at legacy
  obtain ⟨⟨forge, codex, claude, copilot⟩, -⟩ := legacy
  have name : agentTypeFromString text = .custom text := by
    unfold agentTypeFromString
    rw [untagged]
    simp only
  rw [name, agentTypeToString]

/-- Every agent type is read back from its column, so no two of them share a text, and what is read
from any text is read again once it is written. -/
theorem agentType_column_roundTrips :
    (∀ agentType, agentTypeFromString (agentTypeToString agentType) = agentType) ∧
      Function.Injective agentTypeToString ∧
      ∀ text, agentTypeFromString (agentTypeToString (agentTypeFromString text)) =
        agentTypeFromString text :=
  ⟨agentTypeFromString_toString, agentTypeToString_injective,
    fun text => agentTypeFromString_toString (agentTypeFromString text)⟩

example : agentTypeFromString (agentTypeToString (.custom "custom:forge")) =
    .custom "custom:forge" := by
  decide

end TeamComm
