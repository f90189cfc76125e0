import TeamComm.Library.JsonText

/-!
# Broken-off JSON text

What is found in a text behind which more is to come.  A reader which succeeds on a text
succeeds on every longer one and leaves the addition behind, unless it stands in a number.  A text
which breaks off inside an object is therefore no document.
-/

namespace Json

/-! ## Longer strings -/

section Strings

variable {chars rest tail : List Char}

private theorem skipBlanks_append {head : Char} (token : skipBlanks chars = head :: rest) :
    skipBlanks (chars ++ tail) = head :: (rest ++ tail) := by
  unfold skipBlanks at token ⊢
  rw [List.dropWhile_append, token]
  rfl

private theorem readHex4_append {unit : Nat} (read : readHex4 chars = some (unit, rest)) :
    readHex4 (chars ++ tail) = some (unit, rest ++ tail) := by
  unfold readHex4 at read
  split at read
  next a b c d chars =>
    simp only [Option.bind_eq_bind, Option.bind_eq_some_iff, Option.pure_def, Option.some.injEq,
      Prod.mk.injEq] at read
    obtain ⟨a', read_a, b', read_b, c', read_c, d', read_d, rfl, rfl⟩ := read
    simp [readHex4, read_a, read_b, read_c, read_d]
  next => cases read

private theorem readUnicode_append {char : Char} (read : readUnicode chars = some (char, rest)) :
    readUnicode (chars ++ tail) = some (char, rest ++ tail) := by
  unfold readUnicode at read ⊢
  simp only [Option.bind_eq_bind, Option.bind_eq_some_iff] at read ⊢
  obtain ⟨⟨unit, behind⟩, first, read⟩ := read
  refine ⟨⟨unit, behind ++ tail⟩, readHex4_append first, ?_⟩
  dsimp only at read ⊢
  split_ifs at read ⊢ with high low
  · split at read
    next behind =>
      obtain ⟨⟨low, last⟩, second, read⟩ := Option.bind_eq_some_iff.mp read
      refine Option.bind_eq_some_iff.mpr ⟨⟨low, last ++ tail⟩, readHex4_append second, ?_⟩
      dsimp only at read ⊢
      split_ifs at read ⊢
      simp_all
    next => cases read
  · simp_all

private theorem readEscape_append {char : Char} (read : readEscape chars = some (char, rest)) :
    readEscape (chars ++ tail) = some (char, rest ++ tail) := by
  unfold readEscape at read
  split at read
  iterate 8
    next =>
      obtain ⟨rfl, rfl⟩ := Prod.mk.inj (Option.some.inj read)
      rfl
  next => exact readUnicode_append read
  next => cases read

private theorem readChar_append {char : Option Char} (read : readChar chars = some (char, rest)) :
    readChar (chars ++ tail) = some (char, rest ++ tail) := by
  unfold readChar at read
  split at read
  next =>
    obtain ⟨rfl, rfl⟩ := Prod.mk.inj (Option.some.inj read)
    rfl
  next behind =>
    obtain ⟨⟨escaped, last⟩, found, same⟩ := Option.map_eq_some_iff.mp read
    obtain ⟨rfl, rfl⟩ := Prod.mk.inj same
    rw [List.cons_append, readChar, readEscape_append found]
    rfl
  next head behind quote backslash =>
    rw [List.cons_append, readChar]
    · split_ifs at read ⊢
      obtain ⟨rfl, rfl⟩ := Prod.mk.inj (Option.some.inj read)
      rfl
    · exact quote
    · exact backslash
  next => cases read

private theorem readChars_append {fuel more : Nat} {text : List Char}
    (read : readChars fuel chars = some (text, rest)) (enough : fuel ≤ more) :
    readChars more (chars ++ tail) = some (text, rest ++ tail) := by
  induction fuel generalizing more chars text rest with
  | zero => cases read
  | succ fuel ih =>
      obtain ⟨more, rfl⟩ := Nat.exists_eq_add_of_le' (Nat.one_le_of_lt enough)
      unfold readChars at read ⊢
      obtain ⟨⟨char, behind⟩, first, read⟩ := Option.bind_eq_some_iff.mp read
      refine Option.bind_eq_some_iff.mpr ⟨⟨char, behind ++ tail⟩, readChar_append first, ?_⟩
      cases char with
      | none => simp_all
      | some char =>
          obtain ⟨⟨text, last⟩, second, read⟩ := Option.bind_eq_some_iff.mp read
          have later := ih second (Nat.le_of_succ_le_succ enough)
          refine Option.bind_eq_some_iff.mpr ⟨⟨text, last ++ tail⟩, later, ?_⟩
          simp_all

private theorem readString_append {text : String} (read : readString chars = some (text, rest)) :
    readString (chars ++ tail) = some (text, rest ++ tail) := by
  unfold readString at read ⊢
  obtain ⟨⟨inner, last⟩, first, read⟩ := Option.bind_eq_some_iff.mp read
  refine Option.bind_eq_some_iff.mpr
    ⟨⟨inner, last ++ tail⟩, readChars_append first (by simp), ?_⟩
  simp_all

end Strings

/-! ## Longer documents -/

private theorem not_number_nil : Number.ofToken [] = none := by decide

private theorem readValue_nil (fuel : Nat) : readValue fuel [] = none := by
  cases fuel with
  | zero => rfl
  | succ fuel => simp [readValue, skipBlanks, not_number_nil]

private theorem readMember_nil (fuel : Nat) : readMember fuel [] = none := by
  cases fuel with
  | zero => rfl
  | succ fuel => simp [readMember, skipBlanks]

private theorem readItems_nil (fuel : Nat) : readItems fuel [] = none := by
  cases fuel with
  | zero => rfl
  | succ fuel => simp [readItems, skipBlanks]

private theorem readMembers_nil (fuel : Nat) : readMembers fuel [] = none := by
  cases fuel with
  | zero => rfl
  | succ fuel => simp [readMembers, skipBlanks]

/-- A number which something follows ends where it did. -/
private theorem number_append {chars tail : List Char}
    (behind : chars.dropWhile isNumberChar ≠ []) :
    (chars ++ tail).takeWhile isNumberChar = chars.takeWhile isNumberChar ∧
      (chars ++ tail).dropWhile isNumberChar = chars.dropWhile isNumberChar ++ tail := by
  have shorter : (chars.takeWhile isNumberChar).length ≠ chars.length := by
    intro whole
    have same := congrArg List.length
      (List.takeWhile_append_dropWhile (p := isNumberChar) (l := chars))
    rw [List.length_append, whole] at same
    exact behind (List.eq_nil_of_length_eq_zero (by omega))
  rw [List.takeWhile_append, if_neg shorter, List.dropWhile_append,
    if_neg (by simpa using behind)]
  exact ⟨rfl, rfl⟩

/-- A reader stops behind the last character of a document, or in front of a character which is no
part of a number. -/
private def Stops (json : Json) (rest : List Char) : Prop :=
  rest = [] → ∀ number, json ≠ .number number

mutual

private theorem readValue_append : (fuel : Nat) → {more : Nat} → {chars rest tail : List Char} →
    {json : Json} → readValue fuel chars = some (json, rest) → fuel ≤ more → Stops json rest →
    readValue more (chars ++ tail) = some (json, rest ++ tail)
  | 0, _, _, _, _, _, read, _, _ => by cases read
  | fuel + 1, more, chars, rest, tail, json, read, enough, stops => by
      obtain ⟨more, rfl⟩ := Nat.exists_eq_add_of_le' (Nat.one_le_of_lt enough)
      have later : fuel ≤ more := Nat.le_of_succ_le_succ enough
      unfold readValue at read
      split at read
      next behind token =>
        obtain ⟨⟨text, last⟩, found, same⟩ := Option.map_eq_some_iff.mp read
        obtain ⟨rfl, rfl⟩ := Prod.mk.inj same
        rw [readValue, skipBlanks_append token]
        simp [readString_append found]
      next behind token =>
        rw [readValue, skipBlanks_append token]
        split at read
        next last closed =>
          obtain ⟨rfl, rfl⟩ := Prod.mk.inj (Option.some.inj read)
          simp only [skipBlanks_append closed]
        next open_bracket =>
          obtain ⟨⟨item, middle⟩, first, read⟩ := Option.bind_eq_some_iff.mp read
          obtain ⟨⟨items, last⟩, others, read⟩ := Option.bind_eq_some_iff.mp read
          obtain ⟨rfl, rfl⟩ := Prod.mk.inj (Option.some.inj read)
          cases inside : skipBlanks behind with
          | nil => simp [inside, readValue_nil] at first
          | cons head inner =>
              rw [inside] at first
              have goes_on : Stops item middle := by
                rintro rfl
                simp [readItems_nil] at others
              have first := @readValue_append fuel more _ _ tail _ first later goes_on
              have others := @readItems_append fuel more _ _ tail _ others later
              rw [List.cons_append] at first
              simp only [skipBlanks_append inside]
              split
              next same =>
                obtain rfl := (List.cons.inj same).1
                exact absurd inside (open_bracket inner)
              next => simp [first, others]
      next behind token =>
        rw [readValue, skipBlanks_append token]
        split at read
        next last closed =>
          obtain ⟨rfl, rfl⟩ := Prod.mk.inj (Option.some.inj read)
          simp only [skipBlanks_append closed]
        next open_brace =>
          obtain ⟨⟨entry, middle⟩, first, read⟩ := Option.bind_eq_some_iff.mp read
          obtain ⟨⟨members, last⟩, others, read⟩ := Option.bind_eq_some_iff.mp read
          obtain ⟨rfl, rfl⟩ := Prod.mk.inj (Option.some.inj read)
          cases inside : skipBlanks behind with
          | nil => simp [inside, readMember_nil] at first
          | cons head inner =>
              rw [inside] at first
              have goes_on : Stops entry.2 middle := by
                rintro rfl
                simp [readMembers_nil] at others
              have first := @readMember_append fuel more _ _ tail _ first later goes_on
              have others := @readMembers_append fuel more _ _ tail _ others later
              rw [List.cons_append] at first
              simp only [skipBlanks_append inside]
              split
              next same =>
                obtain rfl := (List.cons.inj same).1
                exact absurd inside (open_brace inner)
              next => simp [first, others]
      next behind token =>
        obtain ⟨rfl, rfl⟩ := Prod.mk.inj (Option.some.inj read)
        rw [readValue, skipBlanks_append token]
        rfl
      next behind token =>
        obtain ⟨rfl, rfl⟩ := Prod.mk.inj (Option.some.inj read)
        rw [readValue, skipBlanks_append token]
        rfl
      next behind token =>
        obtain ⟨rfl, rfl⟩ := Prod.mk.inj (Option.some.inj read)
        rw [readValue, skipBlanks_append token]
        rfl
      next =>
        obtain ⟨value, spelled, read⟩ := Option.bind_eq_some_iff.mp read
        obtain ⟨rfl, rfl⟩ := Prod.mk.inj (Option.some.inj read)
        cases token : skipBlanks chars with
        | nil => simp [token, not_number_nil] at spelled
        | cons head inner =>
            rw [token] at spelled stops
            have behind : (head :: inner).dropWhile isNumberChar ≠ [] := fun ends =>
              stops ends value rfl
            obtain ⟨taken, dropped⟩ := @number_append (head :: inner) tail behind
            rw [List.cons_append] at taken dropped
            have starts : isNumberChar head = true := by
              by_contra other
              simp [other, not_number_nil] at spelled
            rw [readValue, skipBlanks_append token]
            split
            iterate 6
              next same =>
                obtain rfl := (List.cons.inj same).1
                exact absurd starts (by decide)
            next => simp [taken, dropped, spelled]

private theorem readItems_append : (fuel : Nat) → {more : Nat} → {chars rest tail : List Char} →
    {items : List Json} → readItems fuel chars = some (items, rest) → fuel ≤ more →
    readItems more (chars ++ tail) = some (items, rest ++ tail)
  | 0, _, _, _, _, _, read, _ => by cases read
  | fuel + 1, more, chars, rest, tail, items, read, enough => by
      obtain ⟨more, rfl⟩ := Nat.exists_eq_add_of_le' (Nat.one_le_of_lt enough)
      have later : fuel ≤ more := Nat.le_of_succ_le_succ enough
      unfold readItems at read
      split at read
      next last closed =>
        obtain ⟨rfl, rfl⟩ := Prod.mk.inj (Option.some.inj read)
        rw [readItems, skipBlanks_append closed]
        rfl
      next behind comma =>
        obtain ⟨⟨item, middle⟩, first, read⟩ := Option.bind_eq_some_iff.mp read
        obtain ⟨⟨items, last⟩, others, read⟩ := Option.bind_eq_some_iff.mp read
        obtain ⟨rfl, rfl⟩ := Prod.mk.inj (Option.some.inj read)
        have goes_on : Stops item middle := by
          rintro rfl
          simp [readItems_nil] at others
        have first := @readValue_append fuel more _ _ tail _ first later goes_on
        have others := @readItems_append fuel more _ _ tail _ others later
        rw [readItems, skipBlanks_append comma]
        simp [first, others]
      next => cases read

private theorem readMember_append : (fuel : Nat) → {more : Nat} → {chars rest tail : List Char} →
    {entry : String × Json} → readMember fuel chars = some (entry, rest) → fuel ≤ more →
    Stops entry.2 rest → readMember more (chars ++ tail) = some (entry, rest ++ tail)
  | 0, _, _, _, _, _, read, _, _ => by cases read
  | fuel + 1, more, chars, rest, tail, entry, read, enough, stops => by
      obtain ⟨more, rfl⟩ := Nat.exists_eq_add_of_le' (Nat.one_le_of_lt enough)
      have later : fuel ≤ more := Nat.le_of_succ_le_succ enough
      unfold readMember at read
      split at read
      next behind quote =>
        obtain ⟨⟨name, middle⟩, first, read⟩ := Option.bind_eq_some_iff.mp read
        dsimp only at read
        split at read
        next stored colon =>
          obtain ⟨⟨value, last⟩, second, read⟩ := Option.bind_eq_some_iff.mp read
          obtain ⟨rfl, rfl⟩ := Prod.mk.inj (Option.some.inj read)
          have second := @readValue_append fuel more _ _ tail _ second later stops
          have first := @readString_append _ _ tail _ first
          rw [readMember, skipBlanks_append quote]
          simp [first, skipBlanks_append colon, second]
        next => cases read
      next => cases read

private theorem readMembers_append : (fuel : Nat) → {more : Nat} → {chars rest tail : List Char} →
    {members : List (String × Json)} → readMembers fuel chars = some (members, rest) →
    fuel ≤ more → readMembers more (chars ++ tail) = some (members, rest ++ tail)
  | 0, _, _, _, _, _, read, _ => by cases read
  | fuel + 1, more, chars, rest, tail, members, read, enough => by
      obtain ⟨more, rfl⟩ := Nat.exists_eq_add_of_le' (Nat.one_le_of_lt enough)
      have later : fuel ≤ more := Nat.le_of_succ_le_succ enough
      unfold readMembers at read
      split at read
      next last closed =>
        obtain ⟨rfl, rfl⟩ := Prod.mk.inj (Option.some.inj read)
        rw [readMembers, skipBlanks_append closed]
        rfl
      next behind comma =>
        obtain ⟨⟨entry, middle⟩, first, read⟩ := Option.bind_eq_some_iff.mp read
        obtain ⟨⟨members, last⟩, others, read⟩ := Option.bind_eq_some_iff.mp read
        obtain ⟨rfl, rfl⟩ := Prod.mk.inj (Option.some.inj read)
        have goes_on : Stops entry.2 middle := by
          rintro rfl
          simp [readMembers_nil] at others
        have first := @readMember_append fuel more _ _ tail _ first later goes_on
        have others := @readMembers_append fuel more _ _ tail _ others later
        rw [readMembers, skipBlanks_append comma]
        simp [first, others]
      next => cases read

end

/-! ## Objects -/

theorem render_object (members : List (String × Json)) :
    ∃ inner, render (.object members) = '{' :: (inner ++ ['}']) := by
  have closed : ∀ members, ∃ inner, renderMembers members = inner ++ ['}'] := by
    intro members
    induction members with
    | nil => exact ⟨[], rfl⟩
    | cons entry members ih =>
        obtain ⟨inner, closed⟩ := ih
        refine ⟨',' :: renderString entry.1 ++ ':' :: render entry.2 ++ inner, ?_⟩
        simp [renderMembers, closed]
  cases members with
  | nil => exact ⟨[], rfl⟩
  | cons entry members =>
      obtain ⟨inner, same⟩ := closed members
      refine ⟨renderString entry.1 ++ ':' :: render entry.2 ++ inner, ?_⟩
      simp [render, same]

private theorem not_number_of_brace {fuel : Nat} {chars rest : List Char} {json : Json}
    (read : readValue fuel ('{' :: chars) = some (json, rest)) (number : Number) :
    json ≠ .number number := by
  rintro rfl
  cases fuel with
  | zero => cases read
  | succ fuel =>
      rw [readValue, skipBlanks_cons _ (by decide)] at read
      simp only at read
      split at read
      next => simp at read
      next =>
        obtain ⟨⟨entry, middle⟩, -, read⟩ := Option.bind_eq_some_iff.mp read
        obtain ⟨⟨members, last⟩, -, read⟩ := Option.bind_eq_some_iff.mp read
        simp at read

/-- A document is read from its text and a newline behind it. -/
theorem parse_render_newline [Floats] (json : Json) :
    parse (json.render ++ ['\n']) = json.accept := by
  have enough : json.render.length < (json.render ++ ['\n']).length + 1 := by
    rw [List.length_append]
    omega
  have read := readValue_render json _ ['\n'] enough (by simp [Ends, isNumberChar])
  have found : scan (json.render ++ ['\n']) = some json := by
    rw [scan, read]
    rfl
  rw [parse, found, Option.bind_some]

/-- A text which breaks off inside an object is no document. -/
theorem scan_cut {members : List (String × Json)} {front back : List Char}
    (cut : render (.object members) = front ++ back) (nonempty : back ≠ []) :
    scan front = none := by
  by_contra found
  obtain ⟨json, found⟩ := Option.ne_none_iff_exists'.mp found
  obtain ⟨⟨json, rest⟩, read, -⟩ := Option.bind_eq_some_iff.mp found
  obtain ⟨inner, whole⟩ := render_object members
  cases front with
  | nil => simp [readValue_nil] at read
  | cons head front =>
      obtain rfl : '{' = head := by
        rw [whole, List.cons_append] at cut
        exact (List.cons.inj cut).1
      have enough : ('{' :: front).length + 1 ≤ (render (.object members)).length + 1 := by
        rw [cut, List.length_append]
        omega
      have longer := @readValue_append _ _ _ _ back _ read enough fun _ => not_number_of_brace read
      rw [← cut] at longer
      have exact_read :=
        readValue_render (.object members) _ [] (Nat.lt_succ_self _) (by simp [Ends])
      rw [List.append_nil, longer] at exact_read
      have rest_nil := (Prod.mk.inj (Option.some.inj exact_read)).2
      exact nonempty (List.append_eq_nil_iff.mp rest_nil).2

theorem parse_cut [Floats] {members : List (String × Json)} {front back : List Char}
    (cut : render (.object members) = front ++ back) (nonempty : back ≠ []) :
    parse front = none := by
  rw [parse, scan_cut cut nonempty, Option.bind_none]

end Json
