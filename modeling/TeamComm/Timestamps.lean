import Mathlib.Data.Prod.Lex
import TeamComm.Calendar
import TeamComm.Library.FixedWidth
import TeamComm.Library.TextOrder

/-!
# Timestamps and their texts

A timestamp is a day, a second of it and a fraction, which goes beyond a full second within a leap
second.  The text of a timestamp is a record of numbers of fixed width, a fraction in groups of
three digits and the offset, so texts of four-digit years are ordered like the timestamps.
-/

namespace TeamComm

/-- `DateTime<Utc>` with the representations of leap seconds. -/
@[ext]
structure Timestamp where
  /-- Days since the Unix epoch. -/
  day : Int
  /-- Seconds of the day. -/
  second : Nat
  /-- Nanoseconds of the second, a full second or more within a leap second. -/
  fraction : Nat
  /-- A day has no more seconds. -/
  second_lt : second < 86400
  /-- A leap second lasts one second. -/
  fraction_lt : fraction < 2000000000
  /-- A leap second ends a minute. -/
  leap : 1000000000 ≤ fraction → second % 60 = 59

namespace Timestamp

/-- The parts of a timestamp, which decide its place. -/
def place (stamp : Timestamp) : Int ×ₗ ℕ ×ₗ ℕ :=
  toLex (stamp.day, toLex (stamp.second, stamp.fraction))

theorem place_injective : Function.Injective place := fun left right same => by
  have parts := toLex_inj.mp same
  have inner := toLex_inj.mp (congrArg Prod.snd parts)
  exact Timestamp.ext (congrArg Prod.fst parts) (congrArg Prod.fst inner) (congrArg Prod.snd inner)

instance : LinearOrder Timestamp := LinearOrder.lift' place place_injective

theorem lt_iff {left right : Timestamp} : left < right ↔ left.day < right.day ∨
    left.day = right.day ∧ (left.second < right.second ∨
      left.second = right.second ∧ left.fraction < right.fraction) := by
  change place left < place right ↔ _
  rw [place, place, Prod.Lex.toLex_lt_toLex, Prod.Lex.toLex_lt_toLex]

/-- The year lies in `0` to `9999`. -/
def FourDigitYear (stamp : Timestamp) : Prop :=
  0 ≤ (Chrono.civil stamp.day).1 ∧ (Chrono.civil stamp.day).1 ≤ 9999

instance (stamp : Timestamp) : Decidable stamp.FourDigitYear :=
  inferInstanceAs (Decidable (_ ∧ _))

/-- One within a leap second, which is written as the second behind the last of a minute. -/
def carry (stamp : Timestamp) : Nat := stamp.fraction / 1000000000

/-- `DateTime::<Utc>::to_rfc3339`. -/
def toRfc3339 (stamp : Timestamp) : String :=
  let (year, month, day) := Chrono.civil stamp.day
  Chrono.yearText year ++ "-" ++ Chrono.padded 2 month ++ "-" ++ Chrono.padded 2 day ++ "T" ++
    Chrono.padded 2 (stamp.second / 3600) ++ ":" ++ Chrono.padded 2 (stamp.second / 60 % 60) ++
    ":" ++ Chrono.padded 2 (stamp.second % 60 + stamp.carry) ++
    Chrono.fractionText (stamp.fraction % 1000000000) ++ "+00:00"

example : toRfc3339 ⟨17166, 86399, 1500000000, by decide, by decide, by decide⟩ =
    "2016-12-31T23:59:60.500+00:00" := by
  decide +kernel

/-! ## The record of a timestamp -/

/-- The numbers of a text, each behind its separator. -/
def layout : List (List Char × ℕ) :=
  [([], 4), (['-'], 2), (['-'], 2), (['T'], 2), ([':'], 2), ([':'], 2)]

/-- The numbers of a timestamp. -/
def fields (stamp : Timestamp) : List ℕ :=
  [(Chrono.civil stamp.day).1.toNat, (Chrono.civil stamp.day).2.1, (Chrono.civil stamp.day).2.2,
    stamp.second / 3600, stamp.second / 60 % 60, stamp.second % 60 + stamp.carry]

/-- What stands behind the numbers. -/
def ending (nanos : Nat) : List Char := (Chrono.fractionText nanos).toList ++ "+00:00".toList

theorem carry_le (stamp : Timestamp) : stamp.carry ≤ 1 := by
  have lt := stamp.fraction_lt
  unfold carry
  omega

theorem carry_eq_one {stamp : Timestamp} (leaps : stamp.carry = 1) : stamp.second % 60 = 59 := by
  unfold carry at leaps
  exact stamp.leap (by omega)

theorem toList_toRfc3339 {stamp : Timestamp} (years : stamp.FourDigitYear) :
    stamp.toRfc3339.toList =
      FixedWidth.spell layout stamp.fields ++ ending (stamp.fraction % 1000000000) := by
  have year_text : Chrono.yearText (Chrono.civil stamp.day).1 =
      Chrono.padded 4 (Chrono.civil stamp.day).1.toNat := if_pos years
  have padded_eq (width value : ℕ) :
      (Chrono.padded width value).toList = FixedWidth.digits width value := String.toList_ofList
  have dash : "-".toList = ['-'] := rfl
  have letter : "T".toList = ['T'] := rfl
  have colon : ":".toList = [':'] := rfl
  simp only [toRfc3339, year_text, String.toList_append, padded_eq, layout, fields, ending,
    FixedWidth.spell, dash, letter, colon, List.append_assoc, List.nil_append, List.append_nil]

theorem fits {stamp : Timestamp} (years : stamp.FourDigitYear) :
    FixedWidth.Fits layout stamp.fields := by
  obtain ⟨⟨-, months⟩, -, days⟩ := Chrono.civil_bounds stamp.day
  have seconds := stamp.second_lt
  have carried := stamp.carry_le
  have last := years.2
  unfold FixedWidth.Fits layout fields
  simp only [List.forall₂_cons, List.forall₂_nil_left_iff, and_true]
  refine ⟨⟨by decide, ?_⟩, ⟨by decide, ?_⟩, ⟨by decide, ?_⟩, ⟨by decide, ?_⟩, ⟨by decide, ?_⟩,
    by decide, ?_⟩ <;> omega

/-- A later timestamp has later numbers, or the same numbers and a later fraction. -/
theorem fields_lt {left right : Timestamp} (left_years : left.FourDigitYear)
    (earlier : left < right) : left.fields < right.fields ∨ left.fields = right.fields ∧
      left.fraction % 1000000000 < right.fraction % 1000000000 := by
  have carried := left.carry_le
  have last : left.carry = 1 → left.second % 60 = 59 := carry_eq_one
  have first := left_years.1
  unfold fields
  rcases lt_iff.mp earlier with day | ⟨day, second | ⟨second, fraction⟩⟩
  · have date := Chrono.civil_lt day
    refine Or.inl ?_
    simp only [List.cons_lt_cons_iff]
    omega
  · have hours := left.second_lt
    rw [day]
    refine Or.inl ?_
    simp only [List.cons_lt_cons_iff, lt_irrefl, true_and, false_or]
    omega
  · rw [day, second]
    simp only [List.cons_lt_cons_iff, List.cons.injEq, lt_irrefl, true_and, false_or, and_true]
    unfold carry
    have below := right.fraction_lt
    simp only [and_false, or_false]
    omega

/-! ## Fractions -/

/-- The groups of three digits which a fraction needs. -/
def groups (nanos : Nat) : List ℕ :=
  if nanos % 1000000 = 0 then [nanos / 1000000]
  else if nanos % 1000 = 0 then [nanos / 1000000, nanos / 1000 % 1000]
  else [nanos / 1000000, nanos / 1000 % 1000, nanos % 1000]

theorem groups_small {nanos : Nat} (small : nanos < 1000000000) :
    ∀ value ∈ groups nanos, value < 10 ^ 3 := by
  intro value member
  have first : nanos / 1000000 < 10 ^ 3 := by omega
  have second : nanos / 1000 % 1000 < 10 ^ 3 := Nat.mod_lt _ (by decide)
  have third : nanos % 1000 < 10 ^ 3 := Nat.mod_lt _ (by decide)
  unfold groups at member
  split_ifs at member <;> simp only [List.mem_cons, List.not_mem_nil, or_false] at member
  · exact member ▸ first
  · rcases member with rfl | rfl
    exacts [first, second]
  · rcases member with rfl | rfl | rfl
    exacts [first, second, third]

/-- The digits of a fraction are those of its groups. -/
theorem fractionText_eq {nanos : Nat} (positive : nanos ≠ 0) (small : nanos < 1000000000) :
    (Chrono.fractionText nanos).toList = '.' :: (groups nanos).flatMap (FixedWidth.digits 3) := by
  have padded_eq (width value : ℕ) :
      (Chrono.padded width value).toList = FixedWidth.digits width value := String.toList_ofList
  have dot : ".".toList = ['.'] := rfl
  have two : FixedWidth.digits 6 (nanos / 1000) = FixedWidth.digits 3 (nanos / 1000000) ++
      FixedWidth.digits 3 (nanos / 1000 % 1000) := by
    rw [← FixedWidth.digits_append (by decide) (by decide) (by omega) (by omega)]
    congr 1
    omega
  have three : FixedWidth.digits 9 nanos = FixedWidth.digits 3 (nanos / 1000000) ++
      (FixedWidth.digits 3 (nanos / 1000 % 1000) ++ FixedWidth.digits 3 (nanos % 1000)) := by
    rw [← List.append_assoc,
      ← FixedWidth.digits_append (by decide) (by decide) (by omega) (by omega),
      ← FixedWidth.digits_append (by decide) (by decide) (by omega) (by omega)]
    congr 1
    omega
  unfold Chrono.fractionText groups
  rw [if_neg positive]
  split_ifs
  · simp [padded_eq, dot]
  · simp [padded_eq, dot, two]
  · simp [padded_eq, dot, three]

/-- Groups are ordered like the fractions, the missing ones being zero. -/
theorem groups_lt {left right : Nat} (earlier : left < right) : groups left < groups right := by
  have parts (nanos : Nat) : ∃ first second third,
      nanos / 1000000 = first ∧ nanos / 1000 % 1000 = second ∧ nanos % 1000 = third ∧
        nanos % 1000000 = 1000 * second + third ∧
        nanos = 1000000 * first + 1000 * second + third ∧ second < 1000 ∧ third < 1000 := by
    refine ⟨_, _, _, rfl, rfl, rfl, ?_⟩
    omega
  obtain ⟨first, second, third, first_eq, second_eq, third_eq, low_eq, left_eq,
    small⟩ := parts left
  obtain ⟨first', second', third', first_eq', second_eq', third_eq', low_eq', right_eq,
    small'⟩ := parts right
  unfold groups
  rw [first_eq, second_eq, third_eq, low_eq, first_eq', second_eq', third_eq', low_eq']
  rw [left_eq, right_eq] at earlier
  clear first_eq second_eq third_eq low_eq left_eq first_eq' second_eq' third_eq' low_eq' right_eq
  split_ifs <;> simp only [List.cons_lt_cons_iff, List.nil_lt_cons, List.not_lt_nil, and_true,
    and_false, or_false] <;> omega

/-- A later fraction has a later text: the offset starts in front of the point, and the point and
the offset in front of all digits. -/
theorem ending_lt {left right : Nat} (small : right < 1000000000) (earlier : left < right) :
    ending left < ending right := by
  have offset : "+00:00".toList = '+' :: "00:00".toList := rfl
  have right_eq := fractionText_eq (by omega) small
  unfold ending
  rcases Nat.eq_zero_or_pos left with rfl | positive
  · have nothing : (Chrono.fractionText 0).toList = [] := rfl
    rw [nothing, right_eq, offset, List.nil_append, List.cons_append]
    exact List.Lex.rel (by decide)
  · have left_eq := fractionText_eq (by omega) (earlier.trans small)
    rw [left_eq, right_eq, offset, List.cons_append, List.cons_append]
    exact List.Lex.cons (FixedWidth.groups_lt (by decide) (by decide)
      (groups_small (earlier.trans small)) (groups_small small) (groups_lt earlier) _)

/-! ## The order of the texts -/

theorem ascii_digits (width value : ℕ) : TextOrder.Ascii (FixedWidth.digits width value) := by
  intro char member
  have digit := FixedWidth.toNat_digit (FixedWidth.allDigits_digits width value char member)
  omega

theorem ascii_ending {nanos : Nat} (small : nanos < 1000000000) :
    TextOrder.Ascii (ending nanos) := by
  intro char member
  rcases List.mem_append.mp member with fraction | offset
  · rcases Nat.eq_zero_or_pos nanos with rfl | positive
    · cases fraction
    · rw [fractionText_eq (by omega) small] at fraction
      rcases List.mem_cons.mp fraction with rfl | digit
      · decide
      · obtain ⟨value, -, digit⟩ := List.mem_flatMap.mp digit
        exact ascii_digits 3 value char digit
  · exact TextOrder.ascii_of_all (by decide) char offset

theorem ascii_toRfc3339 {stamp : Timestamp} (years : stamp.FourDigitYear) :
    TextOrder.Ascii stamp.toRfc3339.toList := by
  intro char member
  rw [toList_toRfc3339 years] at member
  rcases List.mem_append.mp member with numbers | ends
  · have separators :
        layout.all (fun field => field.1.all fun char => char.toNat < 128) = true := by
      decide
    have plain : ∀ field ∈ layout, TextOrder.Ascii field.1 := fun field inside =>
      TextOrder.ascii_of_all (List.all_eq_true.mp separators field inside)
    exact FixedWidth.spell_all plain ascii_digits char numbers
  · exact ascii_ending (Nat.mod_lt _ (by decide)) char ends

theorem toList_lt {left right : Timestamp} (left_years : left.FourDigitYear)
    (right_years : right.FourDigitYear) (earlier : left < right) :
    left.toRfc3339.toList < right.toRfc3339.toList := by
  rw [toList_toRfc3339 left_years, toList_toRfc3339 right_years]
  rcases fields_lt left_years earlier with fields | ⟨fields, fraction⟩
  · exact FixedWidth.spell_lt (fits left_years) (fits right_years) fields _ _
  · rw [fields]
    exact List.append_left_lt (ending_lt (Nat.mod_lt _ (by decide)) fraction)

/-- Timestamps of four-digit years are ordered like the bytes of their texts. -/
theorem bytes_lt_iff {left right : Timestamp} (left_years : left.FourDigitYear)
    (right_years : right.FourDigitYear) :
    TextOrder.bytes left.toRfc3339 < TextOrder.bytes right.toRfc3339 ↔ left < right := by
  have forwards {left right : Timestamp} (left_years : left.FourDigitYear)
      (right_years : right.FourDigitYear) (earlier : left < right) :
      TextOrder.bytes left.toRfc3339 < TextOrder.bytes right.toRfc3339 := by
    have lt := TextOrder.bytes_lt (ascii_toRfc3339 left_years) (ascii_toRfc3339 right_years)
      (toList_lt left_years right_years earlier)
    rwa [String.ofList_toList, String.ofList_toList] at lt
  refine ⟨fun before => ?_, forwards left_years right_years⟩
  rcases lt_trichotomy left right with earlier | rfl | later
  · exact earlier
  · exact absurd before (lt_irrefl _)
  · exact absurd before (forwards right_years left_years later).asymm

/-! ## Reading a text -/

/-- A number is read from behind its separator. -/
theorem readNumber_digits (separator : List Char) {width value : ℕ} (positive : 0 < width)
    (small : value < 10 ^ width) (rest : List Char) :
    Rfc3339.readNumber separator width (separator ++ (FixedWidth.digits width value ++ rest)) =
      some (value, rest) := by
  have length := FixedWidth.length_digits positive small
  have taken : ((separator ++ (FixedWidth.digits width value ++ rest)).drop
      separator.length).take width = FixedWidth.digits width value := by
    rw [List.drop_left, List.take_left' length]
  have starts : separator.isPrefixOf (separator ++ (FixedWidth.digits width value ++ rest)) :=
    List.isPrefixOf_iff_prefix.mpr (List.prefix_append _ _)
  have all : (FixedWidth.digits width value).all Char.isDigit = true :=
    List.all_eq_true.mpr (FixedWidth.allDigits_digits width value)
  unfold Rfc3339.readNumber
  rw [taken, if_pos ⟨starts, length, all⟩, FixedWidth.ofDigitChars_digits, List.drop_append,
    List.drop_eq_nil_of_le (by omega), List.nil_append, Nat.add_sub_cancel_left,
    List.drop_left' length]

/-- A fraction is one number of three, six or nine digits. -/
theorem exists_digits {nanos : Nat} (positive : nanos ≠ 0) (small : nanos < 1000000000) :
    ∃ width value, 0 < width ∧ width ≤ 9 ∧ value < 10 ^ width ∧ nanos = value * 10 ^ (9 - width) ∧
      (Chrono.fractionText nanos).toList = '.' :: FixedWidth.digits width value := by
  have padded_eq (width value : ℕ) :
      ("." ++ Chrono.padded width value).toList = '.' :: FixedWidth.digits width value := by
    rw [String.toList_append]
    exact congrArg _ String.toList_ofList
  unfold Chrono.fractionText
  rw [if_neg positive]
  split_ifs
  · exact ⟨3, _, by decide, by decide, by omega, by omega, padded_eq _ _⟩
  · exact ⟨6, _, by decide, by decide, by omega, by omega, padded_eq _ _⟩
  · exact ⟨9, _, by decide, by decide, by omega, by omega, padded_eq _ _⟩

theorem readFraction_ending {nanos : Nat} (small : nanos < 1000000000) :
    Rfc3339.readFraction (ending nanos) = some (nanos, "+00:00".toList) := by
  rcases Nat.eq_zero_or_pos nanos with rfl | positive
  · rfl
  obtain ⟨width, value, width_positive, short, value_small, nanos_eq, text⟩ :=
    exists_digits (by omega) small
  have length := FixedWidth.length_digits width_positive value_small
  have all := FixedWidth.allDigits_digits width value
  have taken : (FixedWidth.digits width value ++ "+00:00".toList).takeWhile Char.isDigit =
      FixedWidth.digits width value := by
    rw [List.takeWhile_append_of_pos all]
    exact List.append_nil _
  have dropped : (FixedWidth.digits width value ++ "+00:00".toList).dropWhile Char.isDigit =
      "+00:00".toList := by
    rw [List.dropWhile_append_of_pos all]
    rfl
  have some_digit : FixedWidth.digits width value ≠ [] := fun empty => by
    rw [empty] at length
    exact absurd length (by simp only [List.length_nil]; omega)
  have nine : (FixedWidth.digits width value ++ List.replicate 9 '0').take 9 =
      FixedWidth.digits width value ++ List.replicate (9 - width) '0' := by
    rw [List.take_append, length, List.take_of_length_le (by omega), List.take_replicate,
      Nat.min_eq_left (by omega)]
  rw [ending, text, List.cons_append]
  simp only [Rfc3339.readFraction, taken, dropped, if_neg some_digit, nine]
  rw [Nat.ofDigitChars_append, FixedWidth.ofDigitChars_digits, Nat.ofDigitChars_replicate_zero,
    nanos_eq, Nat.mul_comm]

/-- What is read from a record of numbers. -/
theorem readNanos_spell {year month day hour minute second nanos : ℕ} {text : String}
    (fitting : FixedWidth.Fits layout [year, month, day, hour, minute, second])
    (small : nanos < 1000000000)
    (text_eq : text.toList =
      FixedWidth.spell layout [year, month, day, hour, minute, second] ++ ending nanos)
    (valid : Chrono.civil (Rfc3339.dayOf year month day) = (↑year, month, day) ∧ hour < 24 ∧
      minute < 60 ∧ second < 60) :
    Rfc3339.readNanos text = some ((Rfc3339.dayOf year month day * 86400 + hour * 3600 +
      minute * 60 + second) * 1000000000 + nanos) := by
  unfold FixedWidth.Fits layout at fitting
  simp only [List.forall₂_cons] at fitting
  obtain ⟨year_fits, month_fits, day_fits, hour_fits, minute_fits, second_fits, -⟩ := fitting
  unfold Rfc3339.readNanos
  rw [text_eq]
  simp only [layout, FixedWidth.spell, List.append_assoc]
  rw [readNumber_digits _ year_fits.1 year_fits.2]
  simp only [Option.bind_eq_bind, Option.bind_some]
  rw [readNumber_digits _ month_fits.1 month_fits.2]
  simp only [Option.bind_some]
  rw [readNumber_digits _ day_fits.1 day_fits.2]
  simp only [Option.bind_some]
  rw [readNumber_digits _ hour_fits.1 hour_fits.2]
  simp only [Option.bind_some]
  rw [readNumber_digits _ minute_fits.1 minute_fits.2]
  simp only [Option.bind_some]
  rw [readNumber_digits _ second_fits.1 second_fits.2]
  simp only [Option.bind_some, List.nil_append]
  have offset_read := readFraction_ending small
  generalize "+00:00".toList = offset at offset_read ⊢
  rw [offset_read]
  simp only [Option.bind_some, guard, if_pos valid, true_or, if_true]
  rfl

/-- The text of a timestamp outside leap seconds is read as its nanoseconds. -/
theorem readNanos_toRfc3339 {stamp : Timestamp} (years : stamp.FourDigitYear)
    (regular : stamp.fraction < 1000000000) : Rfc3339.readNanos stamp.toRfc3339 =
      some ((stamp.day * 86400 + stamp.second) * 1000000000 + stamp.fraction) := by
  have no_carry : stamp.carry = 0 := Nat.div_eq_of_lt regular
  have seconds := stamp.second_lt
  have date := Chrono.dayOf_civil years.1
  have year_eq : ((Chrono.civil stamp.day).1.toNat : Int) = (Chrono.civil stamp.day).1 :=
    Int.toNat_of_nonneg years.1
  have fraction_eq : stamp.fraction % 1000000000 = stamp.fraction := Nat.mod_eq_of_lt regular
  rw [readNanos_spell (fits years) (Nat.mod_lt _ (by decide)) (toList_toRfc3339 years), date,
    fraction_eq]
  · congr 3
    omega
  · rw [date, year_eq]
    refine ⟨rfl, ?_⟩
    omega

end Timestamp

/-! ## Instants -/

namespace DateTime

/-- The timestamp of an instant, which lies outside leap seconds. -/
def timestamp (instant : DateTime) : Timestamp where
  day := instant.nanos / 1000000000 / 86400
  second := (instant.nanos / 1000000000 % 86400).toNat
  fraction := (instant.nanos % 1000000000).toNat
  second_lt := by omega
  fraction_lt := by omega
  leap := by omega

theorem timestamp_regular (instant : DateTime) : instant.timestamp.fraction < 1000000000 := by
  change (instant.nanos % 1000000000).toNat < 1000000000
  omega

theorem nanos_timestamp (instant : DateTime) :
    (instant.timestamp.day * 86400 + instant.timestamp.second) * 1000000000 +
      instant.timestamp.fraction = instant.nanos := by
  unfold timestamp
  dsimp only
  omega

end DateTime

namespace Rfc3339

theorem utc_toRfc3339 (instant : DateTime) :
    utc.toRfc3339 instant = instant.timestamp.toRfc3339 := by
  have regular := instant.timestamp_regular
  have no_carry : instant.timestamp.carry = 0 := Nat.div_eq_of_lt regular
  have fraction_eq : instant.timestamp.fraction % 1000000000 = instant.timestamp.fraction :=
    Nat.mod_eq_of_lt regular
  have without_zone (body : String) : String.ofList (body ++ "Z").toList.dropLast = body := by
    have zone : "Z".toList = ['Z'] := rfl
    rw [String.toList_append, zone, List.dropLast_concat, String.ofList_toList]
  unfold Timestamp.toRfc3339
  rw [no_carry, fraction_eq]
  exact congrArg (· ++ "+00:00") (without_zone _)

theorem utc_roundTrips {instant : DateTime} (years : instant.timestamp.FourDigitYear) :
    utc.parseFromRfc3339 (utc.toRfc3339 instant) = .ok instant := by
  have read : readNanos (utc.toRfc3339 instant) = some instant.nanos := by
    rw [utc_toRfc3339, Timestamp.readNanos_toRfc3339 years instant.timestamp_regular,
      DateTime.nanos_timestamp]
  generalize utc.toRfc3339 instant = text at read
  unfold utc
  dsimp only
  rw [read]
  exact dif_pos ⟨instant.lower, instant.upper⟩

/-- What is read starts with a year of four digits. -/
theorem utc_digits {text : String} {instant : DateTime}
    (parsed : utc.parseFromRfc3339 text = .ok instant) :
    ∃ year rest, FixedWidth.AllDigits year ∧ year.length = 4 ∧ text.toList = year ++ rest := by
  cases number : readNumber [] 4 text.toList with
  | none =>
      have unread : readNanos text = none := by
        unfold readNanos
        rw [number]
        rfl
      unfold utc at parsed
      dsimp only at parsed
      rw [unread] at parsed
      cases parsed
  | some result =>
      unfold readNumber at number
      dsimp only at number
      split at number
      next digits =>
        exact ⟨text.toList.take 4, text.toList.drop 4, List.all_eq_true.mp digits.2.2,
          digits.2.1, (List.take_append_drop _ _).symm⟩
      next => cases number

/-- A year outside four digits is written behind its sign. -/
theorem utc_signed {instant : DateTime} (years : ¬instant.timestamp.FourDigitYear) :
    ∃ sign rest, (sign = '+' ∨ sign = '-') ∧ (utc.toRfc3339 instant).toList = sign :: rest := by
  unfold Timestamp.FourDigitYear at years
  obtain ⟨sign, rest, sign_eq, year_text⟩ : ∃ sign rest, (sign = '+' ∨ sign = '-') ∧
      (Chrono.yearText (Chrono.civil instant.timestamp.day).1).toList = sign :: rest := by
    unfold Chrono.yearText
    rw [if_neg years, String.toList_append]
    split
    next => exact ⟨'-', _, Or.inr rfl, rfl⟩
    next => exact ⟨'+', _, Or.inl rfl, rfl⟩
  rw [utc_toRfc3339]
  unfold Timestamp.toRfc3339
  simp only [String.toList_append, year_text, List.cons_append]
  exact ⟨sign, _, sign_eq, rfl⟩

end Rfc3339

end TeamComm
