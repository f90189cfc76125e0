import Mathlib.Algebra.Ring.Nat
import Mathlib.Data.List.Forall2
import Mathlib.Data.List.Lex

/-!
# Decimals of fixed width

A number padded with zeros to a fixed width is read back as itself, and numbers of one width are
ordered like their texts.  So are records of such numbers behind fixed separators, and sequences of
them which end in a character in front of all digits.
-/

namespace FixedWidth

/-! ## One number -/

/-- A number in decimal, padded with zeros on the left. -/
def digits (width value : ℕ) : List Char :=
  List.replicate (width - (Nat.toDigits 10 value).length) '0' ++ Nat.toDigits 10 value

/-- Characters which are all digits. -/
def AllDigits (chars : List Char) : Prop := ∀ char ∈ chars, char.isDigit = true

theorem allDigits_digits (width value : ℕ) : AllDigits (digits width value) := by
  intro char member
  rcases List.mem_append.mp member with padding | digit
  · rw [List.eq_of_mem_replicate padding]
    rfl
  · exact Nat.isDigit_of_mem_toDigits (by decide) (by decide) digit

theorem length_digits {width value : ℕ} (positive : 0 < width) (small : value < 10 ^ width) :
    (digits width value).length = width := by
  have short : (Nat.toDigits 10 value).length ≤ width :=
    (Nat.length_toDigits_le_iff (by decide) positive).mpr small
  rw [digits, List.length_append, List.length_replicate]
  omega

@[simp] theorem ofDigitChars_digits (width value : ℕ) :
    Nat.ofDigitChars 10 (digits width value) 0 = value := by
  rw [digits, Nat.ofDigitChars_append, Nat.ofDigitChars_replicate_zero, Nat.mul_zero,
    Nat.ofDigitChars_ten_toDigits]

/-- The number a digit stands for. -/
def digitValue (char : Char) : ℕ := char.toNat - '0'.toNat

theorem digitValue_eq (char : Char) : digitValue char = char.toNat - 48 := rfl

/-- A digit is one of the ten characters from zero on. -/
theorem toNat_digit {char : Char} (digit : char.isDigit = true) :
    48 ≤ char.toNat ∧ char.toNat ≤ 57 := by
  simp only [Char.isDigit, Bool.and_eq_true, decide_eq_true_eq] at digit
  exact ⟨UInt32.le_iff_toNat_le.mp digit.1, UInt32.le_iff_toNat_le.mp digit.2⟩

theorem digitValue_lt {char : Char} (digit : char.isDigit = true) : digitValue char < 10 := by
  have range := toNat_digit digit
  rw [digitValue_eq]
  omega

theorem lt_of_toNat_lt {left right : Char} (lt : left.toNat < right.toNat) : left < right :=
  UInt32.lt_iff_toNat_lt.mpr lt

theorem lt_of_digitValue_lt {left right : Char} (lt : digitValue left < digitValue right) :
    left < right := by
  rw [digitValue_eq, digitValue_eq] at lt
  exact lt_of_toNat_lt (by omega)

theorem ofDigitChars_cons (char : Char) (chars : List Char) :
    Nat.ofDigitChars 10 (char :: chars) 0 =
      10 ^ chars.length * digitValue char + Nat.ofDigitChars 10 chars 0 := by
  rw [Nat.ofDigitChars_cons, Nat.ofDigitChars_eq_ofDigitChars_zero, Nat.mul_zero, Nat.zero_add]
  rfl

theorem AllDigits.tail {char : Char} {chars : List Char} (all : AllDigits (char :: chars)) :
    AllDigits chars :=
  fun other member => all other (List.mem_cons_of_mem char member)

theorem AllDigits.ofDigitChars_lt {chars : List Char} (all : AllDigits chars) :
    Nat.ofDigitChars 10 chars 0 < 10 ^ chars.length := by
  induction chars with
  | nil => decide
  | cons char chars ih =>
      have head := digitValue_lt (all char List.mem_cons_self)
      have below := ih all.tail
      rw [ofDigitChars_cons]
      calc
        10 ^ chars.length * digitValue char + Nat.ofDigitChars 10 chars 0
            < 10 ^ chars.length * digitValue char + 10 ^ chars.length := by omega
        _ = 10 ^ chars.length * (digitValue char + 1) := (Nat.mul_succ _ _).symm
        _ ≤ 10 ^ chars.length * 10 := Nat.mul_le_mul_left _ head
        _ = 10 ^ (char :: chars).length := (Nat.pow_succ _ _).symm

/-- The first digit at which two numbers differ decides. -/
private theorem head_decides {high low other lower scale : ℕ} (low_lt : low < scale)
    (lower_lt : lower < scale) :
    scale * high + low < scale * other + lower ↔ high < other ∨ high = other ∧ low < lower := by
  rcases Nat.lt_trichotomy high other with before | same | behind
  · have step : scale * (high + 1) ≤ scale * other := Nat.mul_le_mul_left scale before
    rw [Nat.mul_succ] at step
    exact iff_of_true (by omega) (Or.inl before)
  · subst same
    omega
  · have step : scale * (other + 1) ≤ scale * high := Nat.mul_le_mul_left scale behind
    rw [Nat.mul_succ] at step
    exact iff_of_false (by omega) (by omega)

/-- Texts of one length are ordered like the numbers they spell. -/
theorem lt_of_ofDigitChars_lt {left right : List Char} (left_all : AllDigits left)
    (right_all : AllDigits right) (same : left.length = right.length)
    (lt : Nat.ofDigitChars 10 left 0 < Nat.ofDigitChars 10 right 0) : left < right := by
  induction left generalizing right with
  | nil =>
      rw [List.length_eq_zero_iff.mp same.symm] at lt
      exact absurd lt (Nat.lt_irrefl _)
  | cons char left ih =>
      cases right with
      | nil => cases same
      | cons other right =>
          have same_tail : left.length = right.length := Nat.succ.inj same
          rw [ofDigitChars_cons, ofDigitChars_cons, same_tail] at lt
          have left_lt := left_all.tail.ofDigitChars_lt
          rw [same_tail] at left_lt
          rcases (head_decides left_lt right_all.tail.ofDigitChars_lt).mp lt with
            before | ⟨same_head, lt_tail⟩
          · exact List.Lex.rel (lt_of_digitValue_lt before)
          · have head := toNat_digit (left_all char List.mem_cons_self)
            have other_head := toNat_digit (right_all other List.mem_cons_self)
            have same_char : char = other := by
              rw [digitValue_eq, digitValue_eq] at same_head
              exact Char.toNat_inj.mp (by omega)
            rw [same_char]
            exact List.Lex.cons (ih left_all.tail right_all.tail same_tail lt_tail)

theorem digits_lt {width left right : ℕ} (positive : 0 < width) (small : right < 10 ^ width)
    (lt : left < right) : digits width left < digits width right := by
  refine lt_of_ofDigitChars_lt (allDigits_digits _ _) (allDigits_digits _ _) ?_ ?_
  · rw [length_digits positive (lt.trans small), length_digits positive small]
  · rwa [ofDigitChars_digits, ofDigitChars_digits]

/-- A text of a length spells no other number than any other text of that length. -/
theorem eq_of_ofDigitChars_eq {left right : List Char} (left_all : AllDigits left)
    (right_all : AllDigits right) (same : left.length = right.length)
    (value : Nat.ofDigitChars 10 left 0 = Nat.ofDigitChars 10 right 0) : left = right := by
  induction left generalizing right with
  | nil => exact (List.length_eq_zero_iff.mp same.symm).symm
  | cons char left ih =>
      cases right with
      | nil => cases same
      | cons other right =>
          have same_tail : left.length = right.length := Nat.succ.inj same
          rw [ofDigitChars_cons, ofDigitChars_cons, same_tail] at value
          have left_lt := left_all.tail.ofDigitChars_lt
          rw [same_tail] at left_lt
          have right_lt := right_all.tail.ofDigitChars_lt
          have forwards := (head_decides left_lt right_lt).not.mp value.not_lt
          have backwards := (head_decides right_lt left_lt).not.mp value.symm.not_lt
          have head := toNat_digit (left_all char List.mem_cons_self)
          have other_head := toNat_digit (right_all other List.mem_cons_self)
          have same_char : char = other := by
            rw [digitValue_eq, digitValue_eq] at forwards backwards
            exact Char.toNat_inj.mp (by omega)
          rw [same_char, ih left_all.tail right_all.tail same_tail (by omega)]

/-- The digits of a number are those of its quotient and those of its remainder. -/
theorem digits_append {front back high low : ℕ} (front_positive : 0 < front)
    (back_positive : 0 < back) (high_small : high < 10 ^ front) (low_small : low < 10 ^ back) :
    digits (front + back) (high * 10 ^ back + low) = digits front high ++ digits back low := by
  have small : high * 10 ^ back + low < 10 ^ (front + back) := by
    calc
      high * 10 ^ back + low < high * 10 ^ back + 10 ^ back := by omega
      _ = (high + 1) * 10 ^ back := (Nat.succ_mul _ _).symm
      _ ≤ 10 ^ front * 10 ^ back := Nat.mul_le_mul_right _ high_small
      _ = 10 ^ (front + back) := (Nat.pow_add _ _ _).symm
  apply eq_of_ofDigitChars_eq (allDigits_digits _ _)
  · intro char member
    rcases List.mem_append.mp member with first | second
    · exact allDigits_digits _ _ char first
    · exact allDigits_digits _ _ char second
  · rw [length_digits (by omega) small, List.length_append, length_digits front_positive high_small,
      length_digits back_positive low_small]
  · rw [ofDigitChars_digits, Nat.ofDigitChars_append, ofDigitChars_digits,
      Nat.ofDigitChars_eq_ofDigitChars_zero, ofDigitChars_digits,
      length_digits back_positive low_small, Nat.mul_comm]

/-! ## Records -/

/-- Texts of one length which differ decide an order whatever stands behind them. -/
theorem append_lt_append {left right : List Char} (lt : left < right)
    (same : left.length = right.length) (behind other : List Char) :
    left ++ behind < right ++ other := by
  induction lt with
  | nil => cases same
  | rel head => exact List.Lex.rel head
  | cons _ ih => exact List.Lex.cons (ih (Nat.succ.inj same))

/-- Numbers of fixed widths, each behind a separator. -/
def spell : List (List Char × ℕ) → List ℕ → List Char
  | (separator, width) :: layout, value :: values =>
      separator ++ (digits width value ++ spell layout values)
  | _, _ => []

/-- What holds of the characters of separators and digits holds of those of a record. -/
theorem spell_all {good : Char → Prop} {layout : List (List Char × ℕ)}
    (separators : ∀ field ∈ layout, ∀ char ∈ field.1, good char)
    (numbers : ∀ width value, ∀ char ∈ digits width value, good char) {values : List ℕ} :
    ∀ char ∈ spell layout values, good char := by
  fun_induction spell layout values with
  | case1 separator width layout value values ih =>
      intro char member
      rcases List.mem_append.mp member with first | member
      · exact separators (separator, width) List.mem_cons_self char first
      · rcases List.mem_append.mp member with digit | later
        · exact numbers width value char digit
        · exact ih (fun field inside => separators field (List.mem_cons_of_mem _ inside)) char later
  | case2 => exact fun char member => absurd member List.not_mem_nil

/-- Each number of a record fits its field. -/
def Fits (layout : List (List Char × ℕ)) (values : List ℕ) : Prop :=
  List.Forall₂ (fun field value => 0 < field.2 ∧ value < 10 ^ field.2) layout values

/-- Records are ordered like their texts, whatever stands behind them. -/
theorem spell_lt {layout : List (List Char × ℕ)} {left right : List ℕ}
    (left_fits : Fits layout left) (right_fits : Fits layout right) (lt : left < right)
    (behind other : List Char) :
    spell layout left ++ behind < spell layout right ++ other := by
  induction left_fits generalizing right with
  | nil =>
      cases right_fits
      cases lt
  | @cons field value layout left fits _ ih =>
      obtain ⟨separator, width⟩ := field
      cases right_fits with
      | @cons _ value' _ right fits' rest' =>
          simp only [spell, List.append_assoc]
          refine List.append_left_lt ?_
          rcases List.cons_lt_cons_iff.mp lt with before | ⟨rfl, later⟩
          · refine append_lt_append (digits_lt fits.1 fits'.2 before) ?_ _ _
            rw [length_digits fits.1 fits.2, length_digits fits.1 fits'.2]
          · exact List.append_left_lt (ih rest' later)

/-! ## Groups -/

/-- Sequences of numbers of one width are ordered like their texts, where these end in a character
in front of all digits. -/
theorem groups_lt {width : ℕ} (positive : 0 < width) {stop : Char} (stop_lt : stop.toNat < 48)
    {left right : List ℕ} (left_small : ∀ value ∈ left, value < 10 ^ width)
    (right_small : ∀ value ∈ right, value < 10 ^ width) (lt : left < right) (rest : List Char) :
    left.flatMap (digits width) ++ stop :: rest < right.flatMap (digits width) ++ stop :: rest := by
  induction lt with
  | @nil value right =>
      have small := right_small value List.mem_cons_self
      have all := allDigits_digits width value
      cases first : digits width value with
      | nil =>
          have empty := length_digits positive small
          rw [first] at empty
          exact absurd empty positive.ne
      | cons char chars =>
          have range := toNat_digit (all char (first ▸ List.mem_cons_self))
          rw [List.flatMap_cons, first]
          exact List.Lex.rel (lt_of_toNat_lt (by omega))
  | @rel value left value' right before =>
      rw [List.flatMap_cons, List.flatMap_cons, List.append_assoc, List.append_assoc]
      have small := left_small value List.mem_cons_self
      have small' := right_small value' List.mem_cons_self
      refine append_lt_append (digits_lt positive small' before) ?_ _ _
      rw [length_digits positive small, length_digits positive small']
  | @cons value left right _ ih =>
      rw [List.flatMap_cons, List.flatMap_cons, List.append_assoc, List.append_assoc]
      exact List.append_left_lt (ih
        (fun other member => left_small other (List.mem_cons_of_mem _ member))
        fun other member => right_small other (List.mem_cons_of_mem _ member))

end FixedWidth
