import TeamComm.Rust

/-!
# Texts and components of paths

A path is under another one when its components extend the components of the other.  Where the text
of one path extends the text of another the two views agree unless the text goes on in the middle of
a component.
-/

namespace TeamComm

namespace PathBuf

/-- `Path::starts_with`: containment by components. -/
def isUnder (path front : PathBuf) : Bool := front.components.isPrefixOf path.components

theorem isUnder_iff {path front : PathBuf} :
    path.isUnder front = true ↔ front.components <+: path.components :=
  List.isPrefixOf_iff_prefix

/-- A text goes on at the end of a component: behind a separator, in front of one, or behind a
component which does not count. -/
def AtBoundary (front rest : List Char) : Prop :=
  rest = [] ∨ rest.head? = some '/' ∨ front = [] ∨ front.getLast? = some '/' ∨ ['/', '.'] <:+ front

instance (front rest : List Char) : Decidable (AtBoundary front rest) :=
  inferInstanceAs (Decidable (_ ∨ _ ∨ _ ∨ _ ∨ _))

/-! ## Pieces -/

/-- The component in front of the first piece. -/
private def lead : List (List Char) → List Component
  | [] :: _ :: _ => [.rootDir]
  | ['.'] :: _ => [.curDir]
  | _ => []

private theorem components_ofList (text : List Char) :
    (PathBuf.mk (String.ofList text)).components =
      lead (text.splitOn '/') ++ (text.splitOn '/').filterMap component := by
  simp only [components, String.toList_ofList]
  congr 1

/-- Every text is a run of whole pieces and a last piece, or a single piece. -/
private theorem exists_last_piece (text : List Char) :
    '/' ∉ text ∨ ∃ front last, '/' ∉ last ∧ text = front ++ '/' :: last := by
  induction text with
  | nil => exact Or.inl (by simp)
  | cons char text ih =>
      rcases ih with single | ⟨front, last, clean, rfl⟩
      · by_cases slash : char = '/'
        · exact Or.inr ⟨[], text, single, by simp [slash]⟩
        · exact Or.inl (by simp [single, Ne.symm slash])
      · exact Or.inr ⟨char :: front, last, clean, rfl⟩

/-- The first piece of a text, as it continues a piece in front. -/
private theorem exists_first_piece (text : List Char) :
    ∃ piece later,
      (∀ front, '/' ∉ front → (front ++ text).splitOn '/' = (front ++ piece) :: later) ∧
      (piece = [] ↔ text = [] ∨ text.head? = some '/') := by
  induction text with
  | nil =>
      refine ⟨[], [], fun front clean => ?_, by simp⟩
      simpa using List.splitOn_eq_singleton clean
  | cons char text ih =>
      by_cases slash : char = '/'
      · refine ⟨[], text.splitOn '/', fun front clean => ?_, by simp [slash]⟩
        rw [slash, List.splitOn_append_cons_self_of_not_mem clean, List.append_nil]
      · obtain ⟨piece, later, split, -⟩ := ih
        refine ⟨char :: piece, later, fun front clean => ?_, by simp [slash]⟩
        have longer : '/' ∉ front ++ [char] := by simp [clean, Ne.symm slash]
        simpa using split (front ++ [char]) longer

private theorem component_eq_some {piece : List Char} (counts : piece ≠ [])
    (other : piece ≠ ['.']) :
    ∃ found, component piece = some found ∧ found ≠ .curDir ∧ found ≠ .rootDir := by
  unfold component
  rw [if_neg (not_or.mpr ⟨counts, other⟩)]
  split
  · exact ⟨_, rfl, by simp⟩
  · exact ⟨_, rfl, by simp⟩

/-- A piece which counts still counts when it goes on, and is another component then. -/
private theorem component_append {piece more : List Char} (counts : piece ≠ [])
    (other : piece ≠ ['.']) (longer : more ≠ []) :
    ∃ found later, component piece = some found ∧ component (piece ++ more) = some later ∧
      found ≠ later := by
  have longer_counts : piece ++ more ≠ [] := by simp [counts]
  have longer_other : piece ++ more ≠ ['.'] := by
    intro same
    rcases List.append_eq_singleton_iff.mp same with ⟨empty, -⟩ | ⟨-, empty⟩
    · exact counts empty
    · exact longer empty
  have different : piece ≠ piece ++ more := by simp [longer]
  unfold component
  rw [if_neg (not_or.mpr ⟨longer_counts, longer_other⟩), if_neg (not_or.mpr ⟨counts, other⟩)]
  refine ⟨_, _, (apply_ite some _ _ _).symm, (apply_ite some _ _ _).symm, ?_⟩
  split
  next parent =>
    split
    next same => exact absurd (parent.trans same.symm) different
    next => simp
  next =>
    split
    next => simp
    next => simpa using longer

/-- The component of a last piece leads the components of a longer text just in case the text goes
on with a separator, if at all, or the piece does not count. -/
private theorem last_component_leads {last rest : List Char} (clean : '/' ∉ last) :
    [last].filterMap component <+: ((last ++ rest).splitOn '/').filterMap component ↔
      (rest = [] ∨ rest.head? = some '/') ∨ last = [] ∨ last = ['.'] := by
  obtain ⟨piece, later, split, ended⟩ := exists_first_piece rest
  rw [split last clean, ← ended]
  by_cases counts : last = [] ∨ last = ['.']
  · have nothing : component last = none := if_pos counts
    rw [List.filterMap_cons_none nothing]
    exact iff_of_true List.nil_prefix (Or.inr counts)
  · have both := not_or.mp counts
    by_cases ended_here : piece = []
    · obtain ⟨found, component_last, -⟩ := component_eq_some both.1 both.2
      rw [ended_here, List.append_nil, List.filterMap_cons_some component_last,
        List.filterMap_cons_some component_last]
      exact iff_of_true (by simp) (Or.inl rfl)
    · obtain ⟨found, other, component_last, component_longer, different⟩ :=
        component_append both.1 both.2 ended_here
      rw [List.filterMap_cons_some component_last, List.filterMap_cons_some component_longer,
        List.cons_prefix_cons]
      exact iff_of_false (fun leads => different leads.1) (not_or.mpr ⟨ended_here, counts⟩)

/-! ## Longer texts -/

private theorem lead_append {pieces more other : List (List Char)} (ne : pieces ≠ [])
    (more_ne : more ≠ []) (other_ne : other ≠ []) :
    lead (pieces ++ more) = lead (pieces ++ other) := by
  obtain ⟨piece, pieces, rfl⟩ := List.exists_cons_of_ne_nil ne
  obtain ⟨first, more, rfl⟩ := List.exists_cons_of_ne_nil more_ne
  obtain ⟨second, other, rfl⟩ := List.exists_cons_of_ne_nil other_ne
  cases piece with
  | nil => cases pieces <;> rfl
  | cons char piece =>
      unfold lead
      split <;> simp_all

/-- A text has one last piece. -/
private theorem last_piece_unique {front other last another : List Char} (clean : '/' ∉ last)
    (other_clean : '/' ∉ another) (same : front ++ '/' :: last = other ++ '/' :: another) :
    last = another := by
  have split := congrArg (List.splitOn '/') same
  rw [List.splitOn_append_cons_self, List.splitOn_append_cons_self, List.splitOn_eq_singleton clean,
    List.splitOn_eq_singleton other_clean] at split
  exact List.singleton_inj.mp (List.append_inj_right' split rfl)

private theorem atBoundary_piece {front last rest : List Char} (clean : '/' ∉ last) :
    AtBoundary (front ++ '/' :: last) rest ↔
      (rest = [] ∨ rest.head? = some '/') ∨ last = [] ∨ last = ['.'] := by
  have separator : (front ++ '/' :: last).getLast? = some '/' ↔ last = [] := by
    constructor
    · intro ends
      obtain ⟨other, same⟩ := List.getLast?_eq_some_iff.mp ends
      exact last_piece_unique clean (by simp) same
    · rintro rfl
      simp
  have dot : ['/', '.'] <:+ front ++ '/' :: last ↔ last = ['.'] := by
    constructor
    · rintro ⟨other, same⟩
      exact (last_piece_unique (by simp) clean same).symm
    · rintro rfl
      exact List.suffix_append front _
  rw [AtBoundary, separator, dot]
  simp [or_assoc]

private theorem atBoundary_single {text rest : List Char} (clean : '/' ∉ text) :
    AtBoundary text rest ↔ (rest = [] ∨ rest.head? = some '/') ∨ text = [] := by
  have separator : text.getLast? ≠ some '/' := fun ends => clean (List.mem_of_getLast? ends)
  have dot : ¬['/', '.'] <:+ text := fun ends => clean (ends.subset (by simp))
  simp [AtBoundary, separator, dot, or_assoc]

/-- A text of a single piece. -/
private theorem single_leads {text rest : List Char} (clean : '/' ∉ text) :
    lead (text.splitOn '/') ++ (text.splitOn '/').filterMap component <+:
        lead ((text ++ rest).splitOn '/') ++ ((text ++ rest).splitOn '/').filterMap component ↔
      (rest = [] ∨ rest.head? = some '/') ∨ text = [] := by
  rw [List.splitOn_eq_singleton clean]
  by_cases empty : text = []
  · subst empty
    exact iff_of_true List.nil_prefix (Or.inr rfl)
  · have leads := @last_component_leads text rest clean
    obtain ⟨piece, later, split, ended⟩ := exists_first_piece rest
    rw [split text clean] at leads ⊢
    by_cases current : text = ['.']
    · subst current
      by_cases ended_here : piece = []
      · subst ended_here
        exact iff_of_true (List.prefix_append _ _) (Or.inl (ended.mp rfl))
      · refine iff_of_false ?_ (not_or.mpr ⟨fun ends => ended_here (ended.mpr ends), empty⟩)
        obtain ⟨found, component_longer, not_current, -⟩ :=
          @component_eq_some (['.'] ++ piece) (by simp) (by simpa using ended_here)
        have no_lead : lead ((['.'] ++ piece) :: later) = [] := by
          cases piece with
          | nil => exact absurd rfl ended_here
          | cons char piece => rfl
        rw [no_lead, List.nil_append, List.filterMap_cons_some component_longer]
        intro leads_other
        exact not_current (List.cons_prefix_cons.mp leads_other).1.symm
    · have no_lead : lead [text] = [] := by
        unfold lead
        split <;> simp_all
      have no_lead_longer : lead ((text ++ piece) :: later) = [] := by
        unfold lead
        split <;> simp_all [List.append_eq_singleton_iff]
      rw [no_lead, no_lead_longer, List.nil_append, List.nil_append, leads]
      simp [empty, current]

/-- A longer text is under a shorter one just in case it goes on at a boundary. -/
theorem isUnder_append_iff (front rest : List Char) :
    (PathBuf.mk (String.ofList (front ++ rest))).isUnder (PathBuf.mk (String.ofList front)) = true ↔
      AtBoundary front rest := by
  rw [isUnder_iff, components_ofList, components_ofList]
  rcases exists_last_piece front with single | ⟨front, last, clean, rfl⟩
  · rw [single_leads single, atBoundary_single single]
  · have longer : front ++ '/' :: last ++ rest = front ++ '/' :: (last ++ rest) := by simp
    have leads := lead_append (List.splitOn_ne_nil '/' front)
      (List.splitOn_ne_nil '/' last) (List.splitOn_ne_nil '/' (last ++ rest))
    rw [longer, List.splitOn_append_cons_self, List.splitOn_append_cons_self, leads,
      List.prefix_append_right_inj, List.filterMap_append, List.filterMap_append,
      List.prefix_append_right_inj, List.splitOn_eq_singleton clean, last_component_leads clean,
      atBoundary_piece clean]

end PathBuf

end TeamComm
