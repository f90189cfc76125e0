import Mathlib.Data.List.Lex
import Mathlib.Data.List.Nodup
import Mathlib.Order.Lattice

/-!
# The order of texts

Texts are compared byte by byte, which for texts of ASCII characters is the order of the characters.
Rows which are sorted by a text are sorted by whatever is ordered like the text.
-/

namespace TextOrder

/-! ## Bytes -/

/-- The bytes of a text in UTF-8. -/
def bytes (text : String) : List ℕ := text.toUTF8.data.toList.map UInt8.toNat

/-- Characters of one byte each. -/
def Ascii (chars : List Char) : Prop := ∀ char ∈ chars, char.toNat < 128

theorem ascii_of_all {chars : List Char} (all : chars.all (fun char => char.toNat < 128) = true) :
    Ascii chars :=
  fun char member => of_decide_eq_true (List.all_eq_true.mp all char member)

theorem utf8EncodeChar_ascii {char : Char} (ascii : char.toNat < 128) :
    String.utf8EncodeChar char = [char.val.toUInt8] :=
  String.utf8EncodeChar_eq_singleton (Char.utf8Size_eq_one_iff.mpr
    (UInt32.le_iff_toNat_le.mpr (Nat.le_of_lt_succ ascii)))

theorem bytes_ofList {chars : List Char} (ascii : Ascii chars) :
    bytes (String.ofList chars) = chars.map Char.toNat := by
  have encoded : chars.flatMap String.utf8EncodeChar = chars.map fun char => char.val.toUInt8 := by
    rw [List.map_eq_flatMap]
    exact List.flatMap_congr fun char member => utf8EncodeChar_ascii (ascii char member)
  rw [bytes, String.toUTF8_eq_toByteArray, String.toByteArray_ofList, List.utf8Encode, encoded,
    List.toList_data_toByteArray, List.map_map]
  refine List.map_congr_left fun char member => ?_
  have small := ascii char member
  change char.val.toUInt8.toNat = char.val.toNat
  rw [UInt32.toNat_toUInt8]
  exact Nat.mod_eq_of_lt (lt_trans small (by decide))

theorem bytes_lt {left right : List Char} (left_ascii : Ascii left) (right_ascii : Ascii right)
    (lt : left < right) : bytes (String.ofList left) < bytes (String.ofList right) := by
  rw [bytes_ofList left_ascii, bytes_ofList right_ascii]
  exact List.map_lt (fun _ _ before => UInt32.lt_iff_toNat_lt.mp before) lt

/-! ## Sorting by a text -/

section Sorting

variable {Row Stamp : Type*} [LinearOrder Stamp] {key : Row → String} {stamp : Row → Stamp}
  {rows : List Row}

/-- Rows sorted by the bytes of a text. -/
def orderBy (key : Row → String) (rows : List Row) : List Row :=
  rows.mergeSort fun left right => decide (bytes (key left) ≤ bytes (key right))

theorem orderBy_perm (key : Row → String) (rows : List Row) : (orderBy key rows).Perm rows :=
  List.mergeSort_perm _ _

theorem orderBy_pairwise (key : Row → String) (rows : List Row) :
    (orderBy key rows).Pairwise fun left right => bytes (key left) ≤ bytes (key right) := by
  have transitive : ∀ first second third : Row,
      decide (bytes (key first) ≤ bytes (key second)) = true →
      decide (bytes (key second) ≤ bytes (key third)) = true →
      decide (bytes (key first) ≤ bytes (key third)) = true := fun _ _ _ lower upper =>
    decide_eq_true ((of_decide_eq_true lower).trans (of_decide_eq_true upper))
  have total : ∀ left right : Row, (decide (bytes (key left) ≤ bytes (key right)) ||
      decide (bytes (key right) ≤ bytes (key left))) = true := fun left right => by
    rcases le_total (bytes (key left)) (bytes (key right)) with before | behind
    · simp [before]
    · simp [behind]
  exact (List.pairwise_mergeSort transitive total rows).imp of_decide_eq_true

/-- Where texts are ordered like stamps and no stamp occurs twice, the stamps ascend. -/
theorem orderBy_ascending (agrees : ∀ left ∈ rows, ∀ right ∈ rows,
      bytes (key left) < bytes (key right) ↔ stamp left < stamp right)
    (distinct : (rows.map stamp).Nodup) :
    (orderBy key rows).Pairwise fun left right => stamp left < stamp right := by
  have perm := orderBy_perm key rows
  have sorted_distinct : (orderBy key rows).Pairwise fun left right => stamp left ≠ stamp right :=
    List.pairwise_map.mp ((perm.map stamp).nodup_iff.mpr distinct)
  refine ((orderBy_pairwise key rows).and sorted_distinct).imp_of_mem ?_
  rintro left right left_member right_member ⟨ordered, differ⟩
  have backwards : ¬stamp right < stamp left := fun behind =>
    absurd ((agrees right (perm.mem_iff.mp right_member) left
      (perm.mem_iff.mp left_member)).mpr behind) (not_lt.mpr ordered)
  exact lt_of_le_of_ne (not_lt.mp backwards) differ

end Sorting

end TextOrder
