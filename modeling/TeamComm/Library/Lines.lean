import Mathlib.Data.List.Induction
import Mathlib.Data.List.TakeWhile

/-!
# Newline-delimited frames

A writer ends each frame with a newline; a reader takes what stands in front of each newline.  A
frame without a newline of its own comes back as it was written.
-/

namespace Lines

/-- Write frames, each one ended by a newline. -/
def join (frames : List String) : String :=
  frames.foldl (fun text frame => text ++ frame ++ "\n") ""

/-- Read the ended frames of a text. -/
def split (text : String) : List String :=
  (text.toList.splitOn '\n').dropLast.map String.ofList

/-- A frame is one line. -/
def Solid (frame : String) : Prop := '\n' ∉ frame.toList

theorem join_snoc (frames : List String) (frame : String) :
    join (frames ++ [frame]) = join frames ++ frame ++ "\n" := by
  simp [join, List.foldl_append]

private theorem join_toList (frames : List String) :
    (join frames).toList = ['\n'].intercalate (frames.map String.toList ++ [[]]) := by
  induction frames using List.reverseRecOn with
  | nil => rfl
  | append_singleton frames frame ih =>
      have append_break : ∀ front : List (List Char), ∀ last : List Char,
          ['\n'].intercalate (front ++ [last, []]) =
            ['\n'].intercalate (front ++ [[]]) ++ last ++ ['\n'] := by
        intro front last
        induction front with
        | nil => simp [List.intercalate]
        | cons head front front_ih =>
            have nonempty : front ++ [last, []] ≠ [] := by simp
            have nonempty' : front ++ [[]] ≠ [] := by simp
            rw [List.cons_append, List.cons_append, List.intercalate_cons_of_ne_nil nonempty,
              List.intercalate_cons_of_ne_nil nonempty', front_ih]
            simp
      rw [join_snoc, String.toList_append, String.toList_append, ih, List.map_append]
      simpa using (append_break (frames.map String.toList) frame.toList).symm

/-- Reading gives the written frames back. -/
theorem split_join {frames : List String} (solid : ∀ frame ∈ frames, Solid frame) :
    split (join frames) = frames := by
  have pieces : ∀ piece ∈ frames.map String.toList ++ [[]], '\n' ∉ piece := by
    intro piece member
    rcases List.mem_append.mp member with written | last
    · obtain ⟨frame, frame_member, rfl⟩ := List.mem_map.mp written
      exact solid frame frame_member
    · obtain rfl : piece = [] := by simpa using last
      simp
  rw [split, join_toList, List.splitOn_intercalate '\n' pieces (by simp)]
  simp [Function.comp_def]

/-! ## One line -/

/-- A character which does not end a line. -/
def inLine (char : Char) : Bool := char != '\n'

/-- The first line of a text, with its newline if it has one, and what stands behind it. -/
def readLine (text : List Char) : List Char × List Char :=
  (text.takeWhile inLine ++ (text.dropWhile inLine).take 1, (text.dropWhile inLine).drop 1)

private theorem inLine_of_solid {line : List Char} (solid : '\n' ∉ line) :
    ∀ char ∈ line, inLine char = true := by
  intro char member
  rw [inLine, bne_iff_ne]
  exact fun same => solid (same ▸ member)

theorem readLine_ended {line : List Char} (solid : '\n' ∉ line) (rest : List Char) :
    readLine (line ++ '\n' :: rest) = (line ++ ['\n'], rest) := by
  have inside := inLine_of_solid solid
  have newline : inLine '\n' = false := by decide
  simp [readLine, List.takeWhile_append_of_pos inside, List.dropWhile_append_of_pos inside, newline]

theorem readLine_open {text : List Char} (solid : '\n' ∉ text) : readLine text = (text, []) := by
  have inside := inLine_of_solid solid
  simp only [readLine, List.takeWhile_eq_self_iff.mpr inside, List.dropWhile_eq_nil_iff.mpr inside,
    List.take_nil, List.drop_nil, List.append_nil]

/-- A text which breaks off in its first line is read to its end. -/
theorem readLine_prefix {line text : List Char} (solid : '\n' ∉ line)
    (part : text <+: line ++ ['\n']) : readLine text = (text, []) := by
  rcases List.prefix_concat_iff.mp part with rfl | inside
  · exact readLine_ended solid []
  · exact readLine_open fun member => solid (inside.subset member)

/-! ## Answered lines -/

/-- What is made of the items one answers relates to them one to one and in order. -/
theorem forall₂_kept {Item Made Written : Type*} {related : Written → Item → Prop}
    {make : Item → Option Made} {write : Made → Written} {kept : Item → Prop} [DecidablePred kept]
    {items : List Item}
    (answered : ∀ item ∈ items, kept item →
      ∃ made, make item = some made ∧ related (write made) item)
    (silent : ∀ item ∈ items, ¬kept item → make item = none) :
    List.Forall₂ related ((items.filterMap make).map write) (items.filter kept) := by
  induction items with
  | nil => exact .nil
  | cons item items ih =>
      have rest := ih (fun other member => answered other (List.mem_cons_of_mem _ member))
        fun other member => silent other (List.mem_cons_of_mem _ member)
      by_cases keep : kept item
      · obtain ⟨made, make_eq, here⟩ := answered item List.mem_cons_self keep
        rw [List.filterMap_cons_some make_eq, List.map_cons, List.filter_cons_of_pos (by simpa)]
        exact .cons here rest
      · rw [List.filterMap_cons_none (silent item List.mem_cons_self keep),
          List.filter_cons_of_neg (by simpa)]
        exact rest

/-- A property which what is written takes over from its item is met by as much as calls for it. -/
theorem countP_le_of_forall₂ {Item Written : Type*} {related : Written → Item → Prop}
    {met : Written → Bool} {called : Item → Bool} {written : List Written} {items : List Item}
    (pairs : List.Forall₂ related written items)
    (takes : ∀ made item, related made item → called item = true → met made = true) :
    items.countP called ≤ written.countP met := by
  induction pairs with
  | nil => exact le_rfl
  | @cons made item _ _ here _ ih =>
      rw [List.countP_cons, List.countP_cons]
      by_cases calls : called item = true
      · rw [if_pos calls, if_pos (takes made item here calls)]
        exact Nat.succ_le_succ ih
      · rw [if_neg calls]
        exact ih.trans (Nat.le_add_right _ _)

end Lines
