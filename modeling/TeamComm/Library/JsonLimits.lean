import TeamComm.Library.Json

/-!
# What a reader takes as it stands

A reader of JSON text bounds how deep arrays and objects may lie in one another, and it rounds the
numbers which are no integers in range.  So a document comes back unchanged if its numbers are such
integers and it is not too deep.
-/

namespace Json

/-! ## Nesting -/

mutual

/-- How deep arrays and objects lie in one another. -/
def nesting : Json → Nat
  | .array items => nestingItems items + 1
  | .object members => nestingMembers members + 1
  | _ => 0

/-- The deepest item of an array. -/
def nestingItems : List Json → Nat
  | [] => 0
  | item :: items => max (nesting item) (nestingItems items)

/-- The deepest member of an object. -/
def nestingMembers : List (String × Json) → Nat
  | [] => 0
  | (_, value) :: members => max (nesting value) (nestingMembers members)

end

theorem nestingItems_le {items : List Json} {depth : Nat} :
    nestingItems items ≤ depth ↔ ∀ item ∈ items, nesting item ≤ depth := by
  induction items with
  | nil => simp [nestingItems]
  | cons item items ih => rw [nestingItems, Nat.max_le, ih, List.forall_mem_cons]

theorem nestingMembers_le {members : List (String × Json)} {depth : Nat} :
    nestingMembers members ≤ depth ↔ ∀ entry ∈ members, nesting entry.2 ≤ depth := by
  induction members with
  | nil => simp [nestingMembers]
  | cons entry members ih => rw [nestingMembers, Nat.max_le, ih, List.forall_mem_cons]

/-- How deep a document may be that is read: one array or object more is refused. -/
def nestingLimit : Nat := 127

/-! ## Numbers -/

/-- Every number of the document is an integer in range. -/
inductive Integral : Json → Prop
  | null : Integral .null
  | bool (value : Bool) : Integral (.bool value)
  | integer (value : Integer) : Integral (.number (.integer value))
  | string (value : String) : Integral (.string value)
  | array {items : List Json} : (∀ item ∈ items, Integral item) → Integral (.array items)
  | object {members : List (String × Json)} :
      (∀ entry ∈ members, Integral entry.2) → Integral (.object members)

/-- The floating-point numbers of a reader. -/
class Floats where
  /-- The spelling of the number which is read for a token, if there is one in range. -/
  read : FloatToken → Option FloatToken

/-- A reader which takes every number as it stands. -/
@[reducible] def Floats.verbatim : Floats := ⟨some⟩

mutual

/-- Round the numbers of a document which are no integers in range. -/
def readFloats [Floats] : Json → Option Json
  | .null => some .null
  | .bool value => some (.bool value)
  | .number (.integer value) => some (.number (.integer value))
  | .number (.float token) => (Floats.read token).map fun read => .number (.float read)
  | .string value => some (.string value)
  | .array items => (readFloatItems items).map .array
  | .object members => (readFloatMembers members).map .object

/-- Round the numbers of each item. -/
def readFloatItems [Floats] : List Json → Option (List Json)
  | [] => some []
  | item :: items => do
      let item ← readFloats item
      let items ← readFloatItems items
      return item :: items

/-- Round the numbers of each member. -/
def readFloatMembers [Floats] : List (String × Json) → Option (List (String × Json))
  | [] => some []
  | (name, value) :: members => do
      let value ← readFloats value
      let members ← readFloatMembers members
      return (name, value) :: members

end

/-- There is nothing to round in a document whose numbers are integers. -/
theorem Integral.readFloats [Floats] {json : Json} (integral : json.Integral) :
    json.readFloats = some json := by
  induction integral with
  | null | bool | integer | string => rfl
  | @array items _ ih =>
      have each : readFloatItems items = some items := by
        clear * - ih
        induction items with
        | nil => rfl
        | cons item items later =>
            rw [List.forall_mem_cons] at ih
            simp [readFloatItems, ih.1, later ih.2]
      rw [Json.readFloats, each, Option.map_some]
  | @object members _ ih =>
      have each : readFloatMembers members = some members := by
        clear * - ih
        induction members with
        | nil => rfl
        | cons entry members later =>
            rw [List.forall_mem_cons] at ih
            simp [readFloatMembers, ih.1, later ih.2]
      rw [Json.readFloats, each, Option.map_some]

/-- What a reader makes of the document which a text spells. -/
def accept [Floats] (json : Json) : Option Json :=
  if json.nesting ≤ nestingLimit then json.readFloats else none

/-- A document whose numbers are integers is taken as it stands, or refused where it is too deep. -/
theorem Integral.accept [Floats] {json : Json} (integral : json.Integral) :
    json.accept = if json.nesting ≤ nestingLimit then some json else none := by
  rw [Json.accept, integral.readFloats]

/-! ## Values -/

namespace Value

/-- The numbers of a value are integers in range, and it is at most so deep. -/
structure Plain (value : Value) (depth : Nat) : Prop where
  integral : value.doc.Integral
  nesting : value.doc.nesting ≤ depth

/-- A value which a reader takes as it stands. -/
abbrev Readable (value : Value) : Prop := value.Plain nestingLimit

theorem Readable.accept [Floats] {value : Value} (readable : value.Readable) :
    value.doc.accept = some value.doc := by
  rw [readable.integral.accept, if_pos readable.nesting]

section Plain

variable {depth : Nat}

theorem Plain.mono {value : Value} {less : Nat} (plain : value.Plain less) (le : less ≤ depth) :
    value.Plain depth :=
  ⟨plain.integral, plain.nesting.trans le⟩

@[simp] theorem plain_null : null.Plain depth := ⟨.null, Nat.zero_le _⟩

@[simp] theorem plain_bool (value : Bool) : (bool value).Plain depth := ⟨.bool value, Nat.zero_le _⟩

@[simp] theorem plain_string (value : String) : (string value).Plain depth :=
  ⟨.string value, Nat.zero_le _⟩

@[simp] theorem plain_integer (value : Integer) : (integer value).Plain depth :=
  ⟨.integer value, Nat.zero_le _⟩

@[simp] theorem plain_u64 (value : UInt64) : (u64 value).Plain depth := plain_integer _

theorem plain_array {items : List Value} (plain : ∀ item ∈ items, item.Plain depth) :
    (array items).Plain (depth + 1) where
  integral := by
    refine .array fun item member => ?_
    obtain ⟨value, inside, rfl⟩ := List.mem_map.mp member
    exact (plain value inside).integral
  nesting := by
    refine Nat.succ_le_succ (nestingItems_le.mpr fun item member => ?_)
    obtain ⟨value, inside, rfl⟩ := List.mem_map.mp member
    exact (plain value inside).nesting

theorem plain_object {members : List (String × Value)}
    (plain : ∀ entry ∈ members, entry.2.Plain depth) : (object members).Plain (depth + 1) where
  integral := by
    refine .object fun entry member => ?_
    obtain ⟨source, inside, rfl⟩ := List.mem_map.mp (mem_sortMembers member)
    exact (plain source inside).integral
  nesting := by
    refine Nat.succ_le_succ (nestingMembers_le.mpr fun entry member => ?_)
    obtain ⟨source, inside, rfl⟩ := List.mem_map.mp (mem_sortMembers member)
    exact (plain source inside).nesting

end Plain

end Value

end Json
