import Mathlib.Data.List.TakeWhile
import Mathlib.Order.Lattice
import TeamComm.Library.Json

/-!
# Strings, paths and clocks

The parts of the Rust standard library and of `chrono` which the daemon's logic rests on: ASCII
case folding, trimming, the component view of a Unix path, and instants with checked arithmetic.
-/

namespace TeamComm

/-! ## Strings -/

/-- `str::to_ascii_lowercase`. -/
def toAsciiLowercase (text : String) : String := String.ofList (text.toList.map Char.toLower)

/-- `char::is_whitespace`: the Unicode `White_Space` property. -/
def isWhitespace (char : Char) : Bool :=
  let code := char.toNat
  (0x9 ≤ code && code ≤ 0xD) || code == 0x20 || code == 0x85 || code == 0xA0 || code == 0x1680 ||
    (0x2000 ≤ code && code ≤ 0x200A) || code == 0x2028 || code == 0x2029 || code == 0x202F ||
    code == 0x205F || code == 0x3000

/-- `str::trim`. -/
def trim (text : String) : String :=
  String.ofList (((text.toList.dropWhile isWhitespace).reverse.dropWhile isWhitespace).reverse)

/-- A character takes at most four bytes. -/
theorem utf8ByteSize_ofList_le (chars : List Char) :
    (String.ofList chars).utf8ByteSize ≤ 4 * chars.length := by
  induction chars with
  | nil => simp
  | cons char chars ih =>
      have small := char.utf8Size_le_four
      rw [String.ofList_cons, String.utf8ByteSize_append, String.utf8ByteSize_singleton,
        List.length_cons]
      omega

/-- Trimming leaves a text alone whose ends are no whitespace. -/
theorem trim_eq_self {text : String} (first : ∀ char ∈ text.toList.head?, isWhitespace char = false)
    (last : ∀ char ∈ text.toList.getLast?, isWhitespace char = false) : trim text = text := by
  have keep : ∀ chars : List Char, (∀ char ∈ chars.head?, isWhitespace char = false) →
      chars.dropWhile isWhitespace = chars := by
    intro chars head
    cases chars with
    | nil => rfl
    | cons char chars => exact List.dropWhile_cons_of_neg (by simp [head char rfl])
  rw [trim, keep _ first, keep _ (by simpa using last), List.reverse_reverse, String.ofList_toList]

/-- A number without its plus sign. -/
def stripPlus : List Char → List Char
  | '+' :: digits => digits
  | digits => digits

/-- `u32::from_str`: digits behind an optional plus sign. -/
def parseU32 (text : String) : Option UInt32 :=
  let digits := stripPlus text.toList
  if digits = [] ∨ ¬digits.all Char.isDigit then none
  else
    let value := Nat.ofDigitChars 10 digits 0
    if value < 2 ^ 32 then some (UInt32.ofNat value) else none

/-- `str::starts_with`. -/
def startsWith (text front : String) : Bool := front.toList.isPrefixOf text.toList

/-! ## Paths -/

/-- A path built from a string. -/
structure PathBuf where
  /-- The string as given. -/
  inner : String

/-- One component of a path. -/
inductive Component
  | rootDir
  | curDir
  | parentDir
  | normal (name : List Char)
  deriving DecidableEq

namespace PathBuf

/-- The component a piece between separators stands for. -/
def component (piece : List Char) : Option Component :=
  if piece = [] ∨ piece = ['.'] then none
  else if piece = ['.', '.'] then some .parentDir
  else some (.normal piece)

/-- `Path::components`: repeated separators and interior `.` vanish, a leading `.` of a relative
path stays. -/
def components (path : PathBuf) : List Component :=
  let pieces := path.inner.toList.splitOn '/'
  let front := match pieces with
    | [] :: _ :: _ => [.rootDir]
    | ['.'] :: _ => [.curDir]
    | _ => []
  front ++ pieces.filterMap component

/-- `PathBuf` equality compares components. -/
instance : BEq PathBuf := ⟨fun left right => decide (left.components = right.components)⟩

theorem beq_iff {left right : PathBuf} : (left == right) = true ↔
    left.components = right.components :=
  decide_eq_true_iff

example : ((PathBuf.mk "/src//lib.rs/") == PathBuf.mk "/src/./lib.rs") = true := by decide

example : ((PathBuf.mk "./lib.rs") == PathBuf.mk "lib.rs") = false := by decide

end PathBuf

/-! ## Instants -/

/-- Nanoseconds of `DateTime::<Utc>::MIN_UTC` relative to the Unix epoch. -/
def minUtc : Int := -8334601228800 * 1000000000

/-- Nanoseconds of `DateTime::<Utc>::MAX_UTC` relative to the Unix epoch. -/
def maxUtc : Int := 8210266876799 * 1000000000 + 999999999

/-- `DateTime<Utc>`: an instant between `MIN_UTC` and `MAX_UTC`. -/
@[ext]
structure DateTime where
  /-- Nanoseconds since the Unix epoch. -/
  nanos : Int
  /-- Not before `MIN_UTC`. -/
  lower : minUtc ≤ nanos
  /-- Not behind `MAX_UTC`. -/
  upper : nanos ≤ maxUtc

namespace DateTime

theorem nanos_injective : Function.Injective nanos := fun _ _ => DateTime.ext

instance : DecidableEq DateTime := fun left right =>
  decidable_of_iff (left.nanos = right.nanos) nanos_injective.eq_iff

instance : LinearOrder DateTime := LinearOrder.lift' nanos nanos_injective

/-- The instant a number of seconds behind the Unix epoch. -/
def ofSeconds (seconds : Nat) (small : seconds ≤ 8210266876799) : DateTime :=
  ⟨seconds * 1000000000, by unfold minUtc; omega, by unfold maxUtc; omega⟩

/-- `DateTime::checked_add_signed`. -/
def checkedAddSigned (instant : DateTime) (nanos : Int) : Option DateTime :=
  if inside : minUtc ≤ instant.nanos + nanos ∧ instant.nanos + nanos ≤ maxUtc then
    some ⟨instant.nanos + nanos, inside.1, inside.2⟩
  else none

end DateTime

/-- `TimeDelta::try_seconds`: the nanoseconds of a span whose milliseconds fit in an `i64`. -/
def trySeconds (seconds : Int) : Option Int :=
  if -9223372036854775 ≤ seconds ∧ seconds ≤ 9223372036854775 then some (seconds * 1000000000)
  else none

/-- `as i64`: a `u64` read in two's complement. -/
def asI64 (value : UInt64) : Int := value.toInt64.toInt

/-- How `chrono` spells an instant. -/
class Chrono where
  /-- The RFC 3339 text of an instant. -/
  toRfc3339 : DateTime → String

namespace Chrono

/-- A number in decimal, padded with zeros on the left. -/
def padded (width value : Nat) : String :=
  let digits := Nat.toDigits 10 value
  String.ofList (List.replicate (width - digits.length) '0' ++ digits)

/-- Year, month and day of a day counted from the Unix epoch. -/
def civil (day : Int) : Int × Nat × Nat :=
  let shifted := day + 719468
  let era := shifted / 146097
  let dayOfEra := (shifted % 146097).toNat
  let yearOfEra := (dayOfEra - dayOfEra / 1460 + dayOfEra / 36524 - dayOfEra / 146096) / 365
  let dayOfYear := dayOfEra - (365 * yearOfEra + yearOfEra / 4 - yearOfEra / 100)
  let shiftedMonth := (5 * dayOfYear + 2) / 153
  let month := if shiftedMonth < 10 then shiftedMonth + 3 else shiftedMonth - 9
  (yearOfEra + era * 400 + if month ≤ 2 then 1 else 0, month,
    dayOfYear - (153 * shiftedMonth + 2) / 5 + 1)

/-- A year of four digits, signed outside `0000` to `9999`. -/
def yearText (year : Int) : String :=
  if 0 ≤ year ∧ year ≤ 9999 then padded 4 year.toNat
  else (if year < 0 then "-" else "+") ++ padded 4 year.natAbs

/-- The fraction of a second, with as many groups of three digits as it needs. -/
def fractionText (nanos : Nat) : String :=
  if nanos = 0 then ""
  else if nanos % 1000000 = 0 then "." ++ padded 3 (nanos / 1000000)
  else if nanos % 1000 = 0 then "." ++ padded 6 (nanos / 1000)
  else "." ++ padded 9 nanos

/-- RFC 3339 in UTC. -/
@[reducible] def utc : Chrono where
  toRfc3339 instant :=
    let seconds := instant.nanos / 1000000000
    let second := (seconds % 86400).toNat
    let (year, month, day) := civil (seconds / 86400)
    yearText year ++ "-" ++ padded 2 month ++ "-" ++ padded 2 day ++ "T" ++
      padded 2 (second / 3600) ++ ":" ++ padded 2 (second / 60 % 60) ++ ":" ++
      padded 2 (second % 60) ++ fractionText (instant.nanos % 1000000000).toNat ++ "Z"

example : utc.toRfc3339 (.ofSeconds 1781258400 (by decide)) = "2026-06-12T10:00:00Z" := by
  decide +kernel

end Chrono

/-- How `chrono` writes an instant for a text column, and how it reads one. -/
class Rfc3339 where
  /-- `DateTime::<Utc>::to_rfc3339`, which spells the offset in digits. -/
  toRfc3339 : DateTime → String
  /-- `DateTime::parse_from_rfc3339`, taken to UTC, or the text of its error. -/
  parseFromRfc3339 : String → Except String DateTime

namespace Rfc3339

/-- The text of an instant is read as the instant. -/
def RoundTrips [Rfc3339] (instant : DateTime) : Prop :=
  parseFromRfc3339 (toRfc3339 instant) = .ok instant

instance [Rfc3339] (instant : DateTime) : Decidable (RoundTrips instant) :=
  inferInstanceAs (Decidable (_ = _))

/-- The day of a civil date, counted from the Unix epoch. -/
def dayOf (year month day : Nat) : Int :=
  let shiftedYear : Int := if month ≤ 2 then year - 1 else year
  let yearOfEra := (shiftedYear % 400).toNat
  let dayOfYear := (153 * ((month + 9) % 12) + 2) / 5 + day - 1
  let dayOfEra := yearOfEra * 365 + yearOfEra / 4 - yearOfEra / 100 + dayOfYear
  shiftedYear / 400 * 146097 + dayOfEra - 719468

/-- A number of exactly so many digits, behind a separator. -/
def readNumber (separator : List Char) (width : Nat) (chars : List Char) :
    Option (Nat × List Char) :=
  let digits := (chars.drop separator.length).take width
  if separator.isPrefixOf chars ∧ digits.length = width ∧ digits.all Char.isDigit then
    some (Nat.ofDigitChars 10 digits 0, chars.drop (separator.length + width))
  else none

/-- The nanoseconds which a fraction of a second spells, none when there is no fraction. -/
def readFraction : List Char → Option (Nat × List Char)
  | '.' :: chars =>
      let digits := chars.takeWhile Char.isDigit
      if digits = [] then none
      else
        some (Nat.ofDigitChars 10 ((digits ++ List.replicate 9 '0').take 9) 0,
          chars.dropWhile Char.isDigit)
  | chars => some (0, chars)

/-- The nanoseconds from the Unix epoch to an instant spelled with a year of four digits and the
offset of UTC. -/
def readNanos (text : String) : Option Int := do
  let (year, chars) ← readNumber [] 4 text.toList
  let (month, chars) ← readNumber ['-'] 2 chars
  let (day, chars) ← readNumber ['-'] 2 chars
  let (hour, chars) ← readNumber ['T'] 2 chars
  let (minute, chars) ← readNumber [':'] 2 chars
  let (second, chars) ← readNumber [':'] 2 chars
  let (fraction, chars) ← readFraction chars
  let days := dayOf year month day
  guard (Chrono.civil days = (↑year, month, day) ∧ hour < 24 ∧ minute < 60 ∧ second < 60)
  guard (chars = "+00:00".toList ∨ chars = ['Z'])
  return (days * 86400 + hour * 3600 + minute * 60 + second) * 1000000000 + fraction

/-- RFC 3339 in UTC. -/
@[reducible] def utc : Rfc3339 where
  toRfc3339 instant := String.ofList (Chrono.utc.toRfc3339 instant).toList.dropLast ++ "+00:00"
  parseFromRfc3339 text :=
    match readNanos text with
    | none => .error "input contains invalid characters"
    | some nanos =>
        if inside : minUtc ≤ nanos ∧ nanos ≤ maxUtc then .ok ⟨nanos, inside.1, inside.2⟩
        else .error "input is out of range"

example : utc.parseFromRfc3339 "2026-06-12T10:00:00.250+00:00" =
    .ok ⟨1781258400250000000, by decide, by decide⟩ := by
  decide +kernel

end Rfc3339

end TeamComm
