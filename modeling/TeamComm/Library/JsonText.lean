import Mathlib.Tactic.IntervalCases
import TeamComm.Library.JsonLimits

/-!
# JSON text

`Json.render` writes a document on one line, without blanks; `Json.scan` finds the document which a
text spells, and `Json.parse` reads it within the limits of a reader.  Scanning inverts writing on
every document, and a written document holds no newline, so documents can be framed by lines.
-/

namespace Json

/-! ## Writing -/

/-- The escape of one character of a string. -/
def escape (char : Char) : List Char :=
  if char = '"' then ['\\', '"']
  else if char = '\\' then ['\\', '\\']
  else if char = '\x08' then ['\\', 'b']
  else if char = '\t' then ['\\', 't']
  else if char = '\n' then ['\\', 'n']
  else if char = '\x0c' then ['\\', 'f']
  else if char = '\r' then ['\\', 'r']
  else if char.toNat < 0x20 then
    ['\\', 'u', '0', '0', Nat.digitChar (char.toNat / 16), Nat.digitChar (char.toNat % 16)]
  else [char]

/-- A quoted string. -/
def renderString (text : String) : List Char := '"' :: text.toList.flatMap escape ++ ['"']

/-- The token of a number. -/
def Number.token : Number → List Char
  | .integer whole => integerToken whole.value
  | .float token => token.text

mutual

/-- Write a document. -/
def render : Json → List Char
  | .null => ['n', 'u', 'l', 'l']
  | .bool true => ['t', 'r', 'u', 'e']
  | .bool false => ['f', 'a', 'l', 's', 'e']
  | .number value => value.token
  | .string text => renderString text
  | .array [] => ['[', ']']
  | .array (item :: items) => '[' :: render item ++ renderItems items
  | .object [] => ['{', '}']
  | .object ((name, value) :: members) =>
      '{' :: renderString name ++ ':' :: render value ++ renderMembers members

/-- Write the items behind the first one, and the closing bracket. -/
def renderItems : List Json → List Char
  | [] => [']']
  | item :: items => ',' :: render item ++ renderItems items

/-- Write the members behind the first one, and the closing brace. -/
def renderMembers : List (String × Json) → List Char
  | [] => ['}']
  | (name, value) :: members =>
      ',' :: renderString name ++ ':' :: render value ++ renderMembers members

end

/-! ## Reading -/

/-- Characters skipped between tokens. -/
def isBlank (char : Char) : Bool :=
  char == ' ' || char == '\t' || char == '\n' || char == '\r'

/-- Drop the blanks in front of a token. -/
def skipBlanks (chars : List Char) : List Char := chars.dropWhile isBlank

/-- The value of a hexadecimal digit. -/
def readHexDigit (char : Char) : Option Nat :=
  if char.isDigit then some (char.toNat - '0'.toNat)
  else if 'a' ≤ char ∧ char ≤ 'f' then some (char.toNat - 'a'.toNat + 10)
  else if 'A' ≤ char ∧ char ≤ 'F' then some (char.toNat - 'A'.toNat + 10)
  else none

/-- Four hexadecimal digits. -/
def readHex4 : List Char → Option (Nat × List Char)
  | a :: b :: c :: d :: rest => do
      let a ← readHexDigit a
      let b ← readHexDigit b
      let c ← readHexDigit c
      let d ← readHexDigit d
      return (((a * 16 + b) * 16 + c) * 16 + d, rest)
  | _ => none

/-- The rest of a `\u` escape; a leading surrogate needs a trailing one behind it. -/
def readUnicode (chars : List Char) : Option (Char × List Char) := do
  let (unit, rest) ← readHex4 chars
  if 0xD800 ≤ unit ∧ unit < 0xDC00 then
    match rest with
    | '\\' :: 'u' :: rest =>
        let (low, rest) ← readHex4 rest
        if 0xDC00 ≤ low ∧ low < 0xE000 then
          return (Char.ofNat (0x10000 + (unit - 0xD800) * 0x400 + (low - 0xDC00)), rest)
        else none
    | _ => none
  else if 0xDC00 ≤ unit ∧ unit < 0xE000 then none
  else return (Char.ofNat unit, rest)

/-- The rest of an escape. -/
def readEscape : List Char → Option (Char × List Char)
  | '"' :: rest => some ('"', rest)
  | '\\' :: rest => some ('\\', rest)
  | '/' :: rest => some ('/', rest)
  | 'b' :: rest => some ('\x08', rest)
  | 'f' :: rest => some ('\x0c', rest)
  | 'n' :: rest => some ('\n', rest)
  | 'r' :: rest => some ('\r', rest)
  | 't' :: rest => some ('\t', rest)
  | 'u' :: rest => readUnicode rest
  | _ => none

/-- The next character of a string, or none at the closing quote. -/
def readChar : List Char → Option (Option Char × List Char)
  | '"' :: rest => some (none, rest)
  | '\\' :: rest => (readEscape rest).map fun (char, rest) => (some char, rest)
  | char :: rest => if char.toNat < 0x20 then none else some (some char, rest)
  | [] => none

/-- The characters up to the closing quote. -/
def readChars : Nat → List Char → Option (List Char × List Char)
  | 0, _ => none
  | fuel + 1, chars => do
      match ← readChar chars with
      | (none, rest) => return ([], rest)
      | (some char, rest) =>
          let (tail, rest) ← readChars fuel rest
          return (char :: tail, rest)

/-- A string, its opening quote already read. -/
def readString (chars : List Char) : Option (String × List Char) := do
  let (text, rest) ← readChars (chars.length + 1) chars
  return (String.ofList text, rest)

theorem readInteger_bounds {token : List Char} {value : Int}
    (read : readInteger token = some value) : -(2 ^ 63) ≤ value ∧ value < 2 ^ 64 := by
  unfold readInteger at read
  split at read <;> dsimp only at read
  · split_ifs at read with spelled
    obtain rfl := Option.some.inj read
    omega
  · split_ifs at read with spelled
    obtain rfl := Option.some.inj read
    omega

/-- The number a token spells. -/
def Number.ofToken (token : List Char) : Option Number :=
  match read : readInteger token with
  | some value =>
      some (.integer ⟨value, (readInteger_bounds read).1, (readInteger_bounds read).2⟩)
  | none => if grammar : isNumberToken token then some (.float ⟨token, grammar, read⟩) else none

mutual

/-- Read a document. -/
def readValue : Nat → List Char → Option (Json × List Char)
  | 0, _ => none
  | fuel + 1, chars =>
      match skipBlanks chars with
      | '"' :: rest => (readString rest).map fun (text, rest) => (.string text, rest)
      | '[' :: rest =>
          match skipBlanks rest with
          | ']' :: rest => some (.array [], rest)
          | rest => do
              let (item, rest) ← readValue fuel rest
              let (items, rest) ← readItems fuel rest
              return (.array (item :: items), rest)
      | '{' :: rest =>
          match skipBlanks rest with
          | '}' :: rest => some (.object [], rest)
          | rest => do
              let (entry, rest) ← readMember fuel rest
              let (members, rest) ← readMembers fuel rest
              return (.object (entry :: members), rest)
      | 'n' :: 'u' :: 'l' :: 'l' :: rest => some (.null, rest)
      | 't' :: 'r' :: 'u' :: 'e' :: rest => some (.bool true, rest)
      | 'f' :: 'a' :: 'l' :: 's' :: 'e' :: rest => some (.bool false, rest)
      | rest => do
          let value ← Number.ofToken (rest.takeWhile isNumberChar)
          return (.number value, rest.dropWhile isNumberChar)

/-- Read the items behind the first one, and the closing bracket. -/
def readItems : Nat → List Char → Option (List Json × List Char)
  | 0, _ => none
  | fuel + 1, chars =>
      match skipBlanks chars with
      | ']' :: rest => some ([], rest)
      | ',' :: rest => do
          let (item, rest) ← readValue fuel rest
          let (items, rest) ← readItems fuel rest
          return (item :: items, rest)
      | _ => none

/-- Read one member of an object. -/
def readMember : Nat → List Char → Option ((String × Json) × List Char)
  | 0, _ => none
  | fuel + 1, chars =>
      match skipBlanks chars with
      | '"' :: rest => do
          let (name, rest) ← readString rest
          match skipBlanks rest with
          | ':' :: rest =>
              let (value, rest) ← readValue fuel rest
              return ((name, value), rest)
          | _ => none
      | _ => none

/-- Read the members behind the first one, and the closing brace. -/
def readMembers : Nat → List Char → Option (List (String × Json) × List Char)
  | 0, _ => none
  | fuel + 1, chars =>
      match skipBlanks chars with
      | '}' :: rest => some ([], rest)
      | ',' :: rest => do
          let (entry, rest) ← readMember fuel rest
          let (members, rest) ← readMembers fuel rest
          return (entry :: members, rest)
      | _ => none

end

/-- The document which a whole text spells. -/
def scan (text : List Char) : Option Json := do
  let (json, rest) ← readValue (text.length + 1) text
  if (skipBlanks rest).isEmpty then return json else none

/-- Read a whole text as one document. -/
def parse [Floats] (text : List Char) : Option Json := (scan text).bind accept

/-! ## Strings -/

private theorem readHexDigit_digitChar {digit : Nat} (small : digit < 16) :
    readHexDigit (Nat.digitChar digit) = some digit := by
  interval_cases digit <;> decide

private theorem readChar_escape (char : Char) (rest : List Char) :
    readChar (escape char ++ rest) = some (some char, rest) := by
  unfold escape
  split_ifs with quote backslash backspace tab newline formfeed carriage control
  iterate 7 subst char; rfl
  · have high : readHexDigit (Nat.digitChar (char.toNat / 16)) = some (char.toNat / 16) :=
      readHexDigit_digitChar (by omega)
    have low : readHexDigit (Nat.digitChar (char.toNat % 16)) = some (char.toNat % 16) :=
      readHexDigit_digitChar (by omega)
    have zero : readHexDigit '0' = some 0 := by decide
    have unit : ((0 * 16 + 0) * 16 + char.toNat / 16) * 16 + char.toNat % 16 = char.toNat := by
      omega
    simp only [List.cons_append, List.nil_append, readChar, readEscape, readUnicode, readHex4,
      zero, high, low, unit, Option.bind_eq_bind, Option.bind_some, Option.pure_def]
    rw [if_neg (by omega), if_neg (by omega)]
    simp [Char.ofNat_toNat]
  · rw [List.singleton_append, readChar]
    · rw [if_neg control]
    · exact fun same => quote same
    · exact fun same => backslash same

private theorem readChars_escaped (text rest : List Char) {fuel : Nat}
    (enough : text.length < fuel) :
    readChars fuel (text.flatMap escape ++ '"' :: rest) = some (text, rest) := by
  induction text generalizing fuel with
  | nil =>
      obtain ⟨fuel, rfl⟩ := Nat.exists_eq_succ_of_ne_zero (Nat.ne_of_gt enough)
      simp [readChars, readChar]
  | cons char text ih =>
      obtain ⟨fuel, rfl⟩ := Nat.exists_eq_succ_of_ne_zero (Nat.ne_zero_of_lt enough)
      have fewer : text.length < fuel := by simpa using enough
      rw [List.flatMap_cons, List.append_assoc, readChars, readChar_escape]
      simp [ih fewer]

private theorem length_le_flatMap_escape (text : List Char) :
    text.length ≤ (text.flatMap escape).length := by
  induction text with
  | nil => rfl
  | cons char text ih =>
      have positive : 0 < (escape char).length := by
        unfold escape
        split_ifs <;> simp
      simp only [List.length_cons, List.flatMap_cons, List.length_append]
      omega

private theorem readString_escaped (text : String) (rest : List Char) :
    readString (text.toList.flatMap escape ++ '"' :: rest) = some (text, rest) := by
  have enough : text.toList.length < (text.toList.flatMap escape ++ '"' :: rest).length + 1 := by
    have shorter := length_le_flatMap_escape text.toList
    simp only [List.length_append, List.length_cons]
    omega
  rw [readString, readChars_escaped _ _ enough]
  simp

/-! ## Numbers -/

private theorem readInteger_integerToken (integer : Integer) :
    readInteger (integerToken integer.value) = some integer.value := by
  obtain ⟨value, lower, upper⟩ := integer
  dsimp only
  unfold integerToken
  split_ifs with negative
  · simp only [readInteger, Nat.ofDigitChars_ten_toDigits]
    rw [if_pos ⟨trivial, by omega, by omega⟩]
    congr 1
    omega
  · unfold readInteger
    split
    next _ digits same =>
      have digit := Nat.isDigit_of_mem_toDigits (c := '-') (b := 10) (n := value.natAbs)
        (by decide) (by decide) (by rw [same]; exact List.mem_cons_self)
      exact absurd digit (by decide)
    next =>
      simp only [Nat.ofDigitChars_ten_toDigits]
      rw [if_pos ⟨trivial, by omega⟩]
      congr 1
      omega

private theorem ofToken_token (number : Number) : Number.ofToken number.token = some number := by
  cases number with
  | integer integer =>
      unfold Number.ofToken
      split
      next value read =>
        have same : integer.value = value :=
          Option.some.inj ((readInteger_integerToken integer).symm.trans read)
        subst same
        rfl
      next read =>
        rw [Number.token, readInteger_integerToken] at read
        simp at read
  | float token =>
      unfold Number.ofToken
      split
      next value read =>
        rw [Number.token, token.notInteger] at read
        simp at read
      next => exact dif_pos token.isNumber

private theorem isNumberChar_of_mem_token {number : Number} {char : Char}
    (member : char ∈ number.token) : isNumberChar char = true := by
  cases number with
  | integer integer =>
      have digits : ∀ {value : Nat}, char ∈ Nat.toDigits 10 value → isNumberChar char = true := by
        intro value digit
        simp [isNumberChar, Nat.isDigit_of_mem_toDigits (by decide) (by decide) digit]
      simp only [Number.token, integerToken] at member
      split_ifs at member
      · rcases List.mem_cons.mp member with rfl | digit
        · decide
        · exact digits digit
      · exact digits member
  | float token =>
      have grammar := token.isNumber
      simp only [isNumberToken, Bool.and_eq_true, List.all_eq_true] at grammar
      exact grammar.1 char member

private theorem token_head (number : Number) :
    ∃ head tail, number.token = head :: tail ∧ (head = '-' ∨ head.isDigit = true) := by
  cases number with
  | integer integer =>
      simp only [Number.token, integerToken]
      split_ifs
      · exact ⟨'-', _, rfl, Or.inl rfl⟩
      · obtain ⟨head, tail, spelled⟩ :=
          List.exists_cons_of_ne_nil (Nat.toDigits_ne_nil (n := integer.value.natAbs) (b := 10))
        refine ⟨head, tail, spelled, Or.inr ?_⟩
        exact Nat.isDigit_of_mem_toDigits (by decide) (by decide)
          (spelled ▸ List.mem_cons_self : head ∈ Nat.toDigits 10 integer.value.natAbs)
  | float token => exact head_of_isNumberToken token.isNumber

/-! ## Reading inverts writing -/

theorem skipBlanks_cons {head : Char} (tail : List Char) (solid : isBlank head = false) :
    skipBlanks (head :: tail) = head :: tail := by
  simp [skipBlanks, solid]

/-- The text behind a document does not continue its last number. -/
def Ends (rest : List Char) : Prop := ∀ char ∈ rest.head?, isNumberChar char = false

private theorem number_head_solid {head : Char} (starts : head = '-' ∨ head.isDigit = true) :
    isBlank head = false ∧ head ∉ ['"', '[', ']', '{', '}', 'n', 't', 'f'] := by
  constructor
  · rcases starts with rfl | digit
    · decide
    · by_contra blank
      simp only [isBlank, Bool.or_eq_true, beq_iff_eq, Bool.not_eq_false] at blank
      rcases blank with ((rfl | rfl) | rfl) | rfl <;> exact absurd digit (by decide)
  · intro member
    rcases starts with rfl | digit
    · exact absurd member (by decide)
    · simp only [List.mem_cons, List.not_mem_nil, or_false] at member
      rcases member with rfl | rfl | rfl | rfl | rfl | rfl | rfl | rfl <;>
        exact absurd digit (by decide)

private theorem render_head (json : Json) :
    ∃ head tail, render json = head :: tail ∧ isBlank head = false ∧ head ≠ ']' := by
  cases json with
  | null => exact ⟨_, _, rfl, by decide, by decide⟩
  | bool value => cases value <;> exact ⟨_, _, rfl, by decide, by decide⟩
  | number number =>
      obtain ⟨head, tail, spelled, starts⟩ := token_head number
      obtain ⟨solid, special⟩ := number_head_solid starts
      exact ⟨head, tail, spelled, solid, fun same => special (by simp [same])⟩
  | string text => exact ⟨_, _, rfl, by decide, by decide⟩
  | array items => cases items <;> exact ⟨_, _, rfl, by decide, by decide⟩
  | object members => cases members <;> exact ⟨_, _, rfl, by decide, by decide⟩

private theorem ends_renderItems (items : List Json) (rest : List Char) :
    Ends (renderItems items ++ rest) := by
  cases items <;> simp [renderItems, Ends, isNumberChar]

private theorem ends_renderMembers (members : List (String × Json)) (rest : List Char) :
    Ends (renderMembers members ++ rest) := by
  cases members <;> simp [renderMembers, Ends, isNumberChar]

private theorem readValue_token (number : Number) (fuel : Nat) {rest : List Char}
    (ends : Ends rest) :
    readValue (fuel + 1) (number.token ++ rest) = some (.number number, rest) := by
  obtain ⟨head, tail, spelled, starts⟩ := token_head number
  obtain ⟨solid, special⟩ := number_head_solid starts
  have token_chars : ∀ char ∈ number.token, isNumberChar char = true :=
    fun char member => isNumberChar_of_mem_token member
  have taken : (number.token ++ rest).takeWhile isNumberChar = number.token := by
    rw [List.takeWhile_append_of_pos token_chars]
    cases rest with
    | nil => simp
    | cons next rest => simp [ends next rfl]
  have dropped : (number.token ++ rest).dropWhile isNumberChar = rest := by
    rw [List.dropWhile_append_of_pos token_chars]
    cases rest with
    | nil => simp
    | cons next rest => simp [ends next rfl]
  have skipped : skipBlanks (number.token ++ rest) = number.token ++ rest := by
    rw [spelled, List.cons_append, skipBlanks_cons _ solid]
  simp only [List.mem_cons, List.not_mem_nil, or_false, not_or] at special
  rw [readValue, skipped]
  split
  iterate 6
    next same =>
      rw [spelled, List.cons_append] at same
      simp_all
  next => simp [taken, dropped, ofToken_token]

private theorem readValue_string (text : String) (fuel : Nat) (rest : List Char) :
    readValue (fuel + 1) (renderString text ++ rest) = some (.string text, rest) := by
  have opened : renderString text ++ rest =
      '"' :: (text.toList.flatMap escape ++ '"' :: rest) := by
    simp [renderString]
  rw [opened, readValue, skipBlanks_cons _ (by decide)]
  simp [readString_escaped]

mutual

theorem readValue_render : (json : Json) → (fuel : Nat) → (rest : List Char) →
    (render json).length < fuel → Ends rest →
    readValue fuel (render json ++ rest) = some (json, rest)
  | json, 0, _, enough, _ => absurd enough (Nat.not_lt_zero _)
  | .null, fuel + 1, rest, _, _ => rfl
  | .bool true, fuel + 1, rest, _, _ => rfl
  | .bool false, fuel + 1, rest, _, _ => rfl
  | .number value, fuel + 1, rest, _, ends => readValue_token value fuel ends
  | .string text, fuel + 1, rest, _, _ => readValue_string text fuel rest
  | .array [], fuel + 1, rest, _, _ => rfl
  | .array (item :: items), fuel + 1, rest, enough, _ => by
      obtain ⟨head, tail, spelled, solid, open_bracket⟩ := render_head item
      simp only [render, List.length_cons, List.length_append, List.cons_append] at enough
      have first := readValue_render item fuel (renderItems items ++ rest) (by omega)
        (ends_renderItems items rest)
      have others := readItems_renderItems items fuel rest (by omega)
      rw [render, List.cons_append, List.cons_append, List.append_assoc, readValue,
        skipBlanks_cons _ (by decide)]
      rw [spelled, List.cons_append] at first ⊢
      simp only [skipBlanks_cons _ solid]
      split
      next same => exact absurd (List.cons.inj same).1 open_bracket
      next => simp [first, others]
  | .object [], fuel + 1, rest, _, _ => rfl
  | .object ((name, value) :: members), fuel + 1, rest, enough, _ => by
      simp only [render, List.length_cons, List.length_append, List.cons_append] at enough
      have first := readMember_render name value fuel (renderMembers members ++ rest)
        (by simp only [List.length_append, List.length_cons]; omega)
        (ends_renderMembers members rest)
      have others := readMembers_renderMembers members fuel rest (by omega)
      have opened : render (.object ((name, value) :: members)) ++ rest =
          '{' ::
            (renderString name ++ ':' :: (render value ++ (renderMembers members ++ rest))) := by
        simp [render]
      rw [opened, readValue, skipBlanks_cons _ (by decide)]
      have quoted : skipBlanks
          (renderString name ++ ':' :: (render value ++ (renderMembers members ++ rest))) =
          renderString name ++ ':' :: (render value ++ (renderMembers members ++ rest)) :=
        skipBlanks_cons _ (by decide)
      simp only [quoted]
      split
      next same => simp [renderString] at same
      next => simp [first, others]

private theorem readItems_renderItems : (items : List Json) → (fuel : Nat) → (rest : List Char) →
    (renderItems items).length < fuel →
    readItems fuel (renderItems items ++ rest) = some (items, rest)
  | _, 0, _, enough => absurd enough (Nat.not_lt_zero _)
  | [], fuel + 1, rest, _ => rfl
  | item :: items, fuel + 1, rest, enough => by
      simp only [renderItems, List.length_cons, List.length_append, List.cons_append] at enough
      have first := readValue_render item fuel (renderItems items ++ rest) (by omega)
        (ends_renderItems items rest)
      have others := readItems_renderItems items fuel rest (by omega)
      rw [renderItems, List.cons_append, List.cons_append, List.append_assoc, readItems,
        skipBlanks_cons _ (by decide)]
      simp [first, others]

private theorem readMember_render : (name : String) → (value : Json) → (fuel : Nat) →
    (rest : List Char) → (renderString name ++ ':' :: render value).length < fuel → Ends rest →
    readMember fuel (renderString name ++ ':' :: (render value ++ rest)) =
      some ((name, value), rest)
  | _, _, 0, _, enough, _ => absurd enough (Nat.not_lt_zero _)
  | name, value, fuel + 1, rest, enough, ends => by
      simp only [List.length_append, List.length_cons] at enough
      have stored := readValue_render value fuel rest (by omega) ends
      have opened : renderString name ++ ':' :: (render value ++ rest) =
          '"' :: (name.toList.flatMap escape ++ '"' :: ':' :: (render value ++ rest)) := by
        simp [renderString]
      rw [opened, readMember, skipBlanks_cons _ (by decide)]
      simp [readString_escaped, skipBlanks_cons _ (by decide : isBlank ':' = false), stored]

private theorem readMembers_renderMembers : (members : List (String × Json)) → (fuel : Nat) →
    (rest : List Char) → (renderMembers members).length < fuel →
    readMembers fuel (renderMembers members ++ rest) = some (members, rest)
  | _, 0, _, enough => absurd enough (Nat.not_lt_zero _)
  | [], fuel + 1, rest, _ => rfl
  | (name, value) :: members, fuel + 1, rest, enough => by
      simp only [renderMembers, List.length_cons, List.length_append, List.cons_append] at enough
      have first := readMember_render name value fuel (renderMembers members ++ rest)
        (by simp only [List.length_append, List.length_cons]; omega)
        (ends_renderMembers members rest)
      have others := readMembers_renderMembers members fuel rest (by omega)
      have opened : renderMembers ((name, value) :: members) ++ rest =
          ',' ::
            (renderString name ++ ':' :: (render value ++ (renderMembers members ++ rest))) := by
        simp [renderMembers]
      rw [opened, readMembers, skipBlanks_cons _ (by decide)]
      simp [first, others]

end

/-- A written document is found again. -/
theorem scan_render (json : Json) : scan json.render = some json := by
  have read :=
    readValue_render json (json.render.length + 1) [] (Nat.lt_succ_self _) (by simp [Ends])
  rw [List.append_nil] at read
  rw [scan, read]
  rfl

/-- What is read of a written document. -/
theorem parse_render [Floats] (json : Json) : parse json.render = json.accept := by
  rw [parse, scan_render, Option.bind_some]

/-! ## One line -/

private theorem newline_not_mem_escape (char : Char) : '\n' ∉ escape char := by
  unfold escape
  split_ifs with quote backslash backspace tab newline formfeed carriage control
  iterate 7 decide
  · have digit_solid : ∀ {digit : Nat}, digit < 16 → '\n' ≠ Nat.digitChar digit := by
      intro digit small
      interval_cases digit <;> decide
    simp [digit_solid (show char.toNat / 16 < 16 by omega),
      digit_solid (show char.toNat % 16 < 16 by omega)]
  · simpa using Ne.symm newline

private theorem newline_not_mem_renderString (text : String) : '\n' ∉ renderString text := by
  simp only [renderString, List.mem_append, List.mem_cons, List.mem_flatMap, not_or, not_exists]
  exact ⟨⟨by decide, fun char both => newline_not_mem_escape char both.2⟩, by decide, by simp⟩

mutual

/-- A written document holds no newline. -/
theorem newline_not_mem_render : (json : Json) → '\n' ∉ render json
  | .null => by decide
  | .bool true => by decide
  | .bool false => by decide
  | .number value => fun member => absurd (isNumberChar_of_mem_token member) (by decide)
  | .string text => newline_not_mem_renderString text
  | .array [] => by decide
  | .array (item :: items) => by
      simp [render, newline_not_mem_render item, newline_not_mem_renderItems items]
  | .object [] => by decide
  | .object ((name, value) :: members) => by
      simp [render, newline_not_mem_renderString name, newline_not_mem_render value,
        newline_not_mem_renderMembers members]

private theorem newline_not_mem_renderItems : (items : List Json) → '\n' ∉ renderItems items
  | [] => by decide
  | item :: items => by
      simp [renderItems, newline_not_mem_render item, newline_not_mem_renderItems items]

private theorem newline_not_mem_renderMembers :
    (members : List (String × Json)) → '\n' ∉ renderMembers members
  | [] => by decide
  | (name, value) :: members => by
      simp [renderMembers, newline_not_mem_renderString name, newline_not_mem_render value,
        newline_not_mem_renderMembers members]

end

end Json
