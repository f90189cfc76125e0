import Mathlib.Tactic.IntervalCases
import TeamComm.Rust

/-!
# The calendar of the texts

A day is split into a year which starts in March, a month of that year and a day of the month.  The
three parts give the day back, and of two days the later one has the later parts.
-/

namespace TeamComm

namespace Chrono

/-- The days in front of a year which starts in March, counted from the first day of year zero. -/
def yearStart (year : Int) : Int := 365 * year + year / 4 - year / 100 + year / 400

/-- The days of such a year in front of a month. -/
def monthStart (month : Nat) : Nat := (153 * month + 2) / 5

theorem yearStart_era (year era : Int) :
    yearStart (year + era * 400) = yearStart year + era * 146097 := by
  unfold yearStart
  omega

theorem yearStart_mono {left right : Int} (ordered : left ≤ right) :
    yearStart left ≤ yearStart right := by
  unfold yearStart
  omega

/-- The year of an era does not start behind a day which is counted to it. -/
theorem yearOfEra_lower {day year : Nat} (inside : day < 146097)
    (year_eq : year = (day - day / 1460 + day / 36524 - day / 146096) / 365) :
    year < 400 ∧ 365 * year + year / 4 - year / 100 ≤ day := by
  obtain ⟨century, century_eq⟩ : ∃ century, century = day / 36524 := ⟨_, rfl⟩
  obtain ⟨yearCentury, yearCentury_eq⟩ : ∃ yearCentury, yearCentury = year / 100 := ⟨_, rfl⟩
  have last_eq : day / 146096 = century / 4 := by omega
  rw [← century_eq, last_eq] at year_eq
  have centuries : century ≤ 4 := by omega
  have yearCenturies : yearCentury ≤ 4 := by omega
  clear last_eq
  interval_cases century <;> interval_cases yearCentury <;>
    first | (exfalso; omega) | omega

/-- The next year starts behind the day. -/
theorem yearOfEra_upper {day year : Nat} (inside : day < 146097)
    (year_eq : year = (day - day / 1460 + day / 36524 - day / 146096) / 365) :
    (day : Int) < yearStart (year + 1) := by
  obtain ⟨quad, quad_eq⟩ : ∃ quad, quad = day / 1460 := ⟨_, rfl⟩
  obtain ⟨century, century_eq⟩ : ∃ century, century = day / 36524 := ⟨_, rfl⟩
  obtain ⟨nextQuad, nextQuad_eq⟩ : ∃ nextQuad, nextQuad = (year + 1 : Int) / 4 := ⟨_, rfl⟩
  obtain ⟨nextCentury, nextCentury_eq⟩ : ∃ nextCentury, nextCentury = (year + 1 : Int) / 100 :=
    ⟨_, rfl⟩
  have last_eq : day / 146096 = century / 4 := by omega
  have nextEra_eq : (year + 1 : Int) / 400 = nextCentury / 4 := by omega
  rw [← quad_eq, ← century_eq, last_eq] at year_eq
  rw [yearStart, ← nextQuad_eq, ← nextCentury_eq, nextEra_eq]
  have centuries : century ≤ 4 := by omega
  obtain ⟨nextCentury_lower, nextCentury_upper⟩ : 0 ≤ nextCentury ∧ nextCentury ≤ 4 := by omega
  clear last_eq nextEra_eq
  interval_cases century <;> interval_cases nextCentury <;> first
      | (exfalso; omega)
      | (have quads : quad ≤ nextQuad := by omega
         omega)

/-- A year has 366 days at most. -/
theorem dayOfYear_le {day year : Nat} (years : year < 400)
    (upper : (day : Int) < yearStart (year + 1)) :
    day - (365 * year + year / 4 - year / 100) ≤ 365 := by
  unfold yearStart at upper
  have eras : (year : Int) / 100 + (year + 1) / 400 ≤ (year + 1) / 100 := by omega
  omega

/-! ## Dates -/

/-- A day as a year which starts in March, a month of that year and a day of the month. -/
structure MarchDate where
  year : Int
  month : Nat
  day : Nat

/-- The parts of a day counted from the Unix epoch. -/
structure MarchDate.Of (date : MarchDate) (day : Int) : Prop where
  months : date.month < 12
  first : 1 ≤ date.day
  length : date.day ≤ 31
  sum : day + 719468 = yearStart date.year + monthStart date.month + date.day - 1
  year_ends : day + 719468 < yearStart (date.year + 1)
  month_ends : date.day ≤ monthStart (date.month + 1) - monthStart date.month

/-- The year, month and day under which a date is known. -/
def MarchDate.civil (date : MarchDate) : Int × Nat × Nat :=
  let month := if date.month < 10 then date.month + 3 else date.month - 9
  (date.year + if month ≤ 2 then 1 else 0, month, date.day)

/-- A day of a year lies in a month. -/
theorem month_of_dayOfYear {dayOfYear : Nat} (days : dayOfYear ≤ 365) :
    (5 * dayOfYear + 2) / 153 < 12 ∧ monthStart ((5 * dayOfYear + 2) / 153) ≤ dayOfYear ∧
      dayOfYear < monthStart ((5 * dayOfYear + 2) / 153) + 31 ∧
      dayOfYear < monthStart ((5 * dayOfYear + 2) / 153 + 1) := by
  unfold monthStart
  omega

theorem exists_marchDate (day : Int) :
    ∃ date : MarchDate, date.Of day ∧ civil day = date.civil := by
  obtain ⟨era, era_eq⟩ : ∃ era, era = (day + 719468) / 146097 := ⟨_, rfl⟩
  obtain ⟨dayOfEra, dayOfEra_eq⟩ : ∃ dayOfEra : Nat,
      dayOfEra = ((day + 719468) % 146097).toNat := ⟨_, rfl⟩
  obtain ⟨year, year_eq⟩ : ∃ year, year = (dayOfEra - dayOfEra / 1460 + dayOfEra / 36524 -
      dayOfEra / 146096) / 365 := ⟨_, rfl⟩
  obtain ⟨dayOfYear, dayOfYear_eq⟩ : ∃ dayOfYear, dayOfYear =
      dayOfEra - (365 * year + year / 4 - year / 100) := ⟨_, rfl⟩
  have same_civil : civil day = MarchDate.civil ⟨year + era * 400, (5 * dayOfYear + 2) / 153,
      dayOfYear - monthStart ((5 * dayOfYear + 2) / 153) + 1⟩ := by
    simp only [civil, MarchDate.civil, monthStart, dayOfEra_eq, year_eq, dayOfYear_eq, era_eq]
  have inside : dayOfEra < 146097 := by omega
  have sum : day + 719468 = era * 146097 + dayOfEra := by omega
  obtain ⟨years, lower⟩ := yearOfEra_lower inside year_eq
  have upper := yearOfEra_upper inside year_eq
  have days : dayOfYear ≤ 365 := dayOfYear_eq ▸ dayOfYear_le years upper
  have split : (dayOfEra : Int) = yearStart year + dayOfYear := by
    clear year_eq sum dayOfEra_eq era_eq upper
    unfold yearStart
    omega
  clear year_eq dayOfEra_eq era_eq dayOfYear_eq lower inside
  obtain ⟨months, starts, short, month_ends⟩ := month_of_dayOfYear days
  refine ⟨_, ?_, same_civil⟩
  clear same_civil
  constructor <;> dsimp only
  · exact months
  · exact Nat.le_add_left _ _
  · omega
  · rw [yearStart_era]
    omega
  · rw [add_right_comm, yearStart_era]
    omega
  · omega

namespace MarchDate.Of

variable {left right : Int} {date other : MarchDate}

theorem year_le (here : date.Of left) (there : other.Of right) (ordered : left ≤ right) :
    date.year ≤ other.year := by
  by_contra later
  have mono := yearStart_mono (show other.year + 1 ≤ date.year by omega)
  have starts := here.sum
  have ends := there.year_ends
  have first := here.first
  omega

/-- The parts of two days are ordered like the days. -/
theorem lt (here : date.Of left) (there : other.Of right) (earlier : left < right) :
    date.year < other.year ∨ date.year = other.year ∧
      (date.month < other.month ∨ date.month = other.month ∧ date.day < other.day) := by
  rcases lt_or_eq_of_le (year_le here there earlier.le) with before | same_year
  · exact Or.inl before
  refine Or.inr ⟨same_year, ?_⟩
  have sum := here.sum
  have other_sum := there.sum
  rw [← same_year] at other_sum
  rcases lt_trichotomy date.month other.month with before | same_month | behind
  · exact Or.inl before
  · rw [← same_month] at other_sum
    exact Or.inr ⟨same_month, by omega⟩
  · have starts := here.first
    have ends := there.month_ends
    unfold monthStart at sum other_sum ends
    omega

end MarchDate.Of

/-- A later day has a later date. -/
theorem civil_lt {left right : Int} (earlier : left < right) :
    (civil left).1 < (civil right).1 ∨ (civil left).1 = (civil right).1 ∧
      ((civil left).2.1 < (civil right).2.1 ∨ (civil left).2.1 = (civil right).2.1 ∧
        (civil left).2.2 < (civil right).2.2) := by
  obtain ⟨date, here, date_eq⟩ := exists_marchDate left
  obtain ⟨other, there, other_eq⟩ := exists_marchDate right
  have ordered := here.lt there earlier
  have months := here.months
  have other_months := there.months
  rw [date_eq, other_eq]
  unfold MarchDate.civil
  dsimp only
  split_ifs <;> omega

theorem civil_bounds (day : Int) :
    (1 ≤ (civil day).2.1 ∧ (civil day).2.1 ≤ 12) ∧ 1 ≤ (civil day).2.2 ∧ (civil day).2.2 ≤ 31 := by
  obtain ⟨date, here, date_eq⟩ := exists_marchDate day
  have months := here.months
  rw [date_eq]
  unfold MarchDate.civil
  dsimp only
  refine ⟨?_, here.first, here.length⟩
  split_ifs <;> omega

/-- A year counted in eras. -/
theorem yearStart_eq (year : Int) : yearStart year = year / 400 * 146097 +
    (((year % 400).toNat * 365 + (year % 400).toNat / 4 -
      (year % 400).toNat / 100 : Nat) : Int) := by
  have split : year = (year % 400).toNat + year / 400 * 400 := by omega
  conv_lhs => rw [split, yearStart_era]
  unfold yearStart
  omega

/-- The day of a date is the day it was made of. -/
theorem dayOf_civil {day : Int} (years : 0 ≤ (civil day).1) :
    Rfc3339.dayOf (civil day).1.toNat (civil day).2.1 (civil day).2.2 = day := by
  obtain ⟨date, here, date_eq⟩ := exists_marchDate day
  have months := here.months
  have first := here.first
  have sum := here.sum
  rw [date_eq] at years ⊢
  have year_eq : (if date.civil.2.1 ≤ 2 then (date.civil.1.toNat : Int) - 1
      else date.civil.1.toNat) = date.year := by
    unfold MarchDate.civil at years ⊢
    dsimp only at years ⊢
    split_ifs at years ⊢ <;> omega
  have month_eq : (date.civil.2.1 + 9) % 12 = date.month := by
    unfold MarchDate.civil
    dsimp only
    split_ifs <;> omega
  unfold Rfc3339.dayOf
  dsimp only
  rw [year_eq, month_eq]
  rw [yearStart_eq, monthStart] at sum
  change _ + ((_ + ((153 * date.month + 2) / 5 + date.day - 1) : Nat) : Int) - 719468 = day
  omega

end Chrono

end TeamComm
