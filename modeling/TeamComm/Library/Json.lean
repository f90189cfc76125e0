import Mathlib.Algebra.Ring.Int.Defs
import Mathlib.Data.List.Induction
import Mathlib.Data.String.Basic

/-!
# JSON documents and values

A `Json` is a parsed document: members stand in the order of the text and a name may repeat.  A
`Json.Value` is a document in canonical form, each object a map listed in strictly increasing name
order.  Normalisation turns a document into a value, the last member of a name winning, and fixes
every value.
-/

namespace Json

/-! ## Numbers -/

/-- Characters which may stand in a number token. -/
def isNumberChar (char : Char) : Bool :=
  char.isDigit || char == '-' || char == '+' || char == '.' || char == 'e' || char == 'E'

private def isDigits (chars : List Char) : Bool := !chars.isEmpty && chars.all Char.isDigit

private def isExponent : List Char → Bool
  | [] => true
  | mark :: '+' :: digits => (mark == 'e' || mark == 'E') && isDigits digits
  | mark :: '-' :: digits => (mark == 'e' || mark == 'E') && isDigits digits
  | mark :: digits => (mark == 'e' || mark == 'E') && isDigits digits

private def isFraction : List Char → Bool
  | '.' :: chars =>
      !(chars.takeWhile Char.isDigit).isEmpty && isExponent (chars.dropWhile Char.isDigit)
  | chars => isExponent chars

private def isUnsigned : List Char → Bool
  | '0' :: chars => isFraction chars
  | chars => !(chars.takeWhile Char.isDigit).isEmpty && isFraction (chars.dropWhile Char.isDigit)

/-- The number grammar. -/
def isNumberToken (token : List Char) : Bool :=
  token.all isNumberChar &&
    match token with
    | '-' :: chars => isUnsigned chars
    | chars => isUnsigned chars

private theorem head_of_isUnsigned {chars : List Char} (grammar : isUnsigned chars = true) :
    ∃ head tail, chars = head :: tail ∧ head.isDigit = true := by
  unfold isUnsigned at grammar
  split at grammar
  next tail => exact ⟨'0', tail, rfl, by decide⟩
  next =>
    cases chars with
    | nil => simp at grammar
    | cons head tail =>
        refine ⟨head, tail, rfl, ?_⟩
        by_contra nondigit
        simp [nondigit] at grammar

/-- A number token starts with a sign or a digit. -/
theorem head_of_isNumberToken {token : List Char} (grammar : isNumberToken token = true) :
    ∃ head tail, token = head :: tail ∧ (head = '-' ∨ head.isDigit = true) := by
  simp only [isNumberToken, Bool.and_eq_true] at grammar
  have unsigned := grammar.2
  split at unsigned
  next chars => exact ⟨'-', chars, rfl, Or.inl rfl⟩
  next =>
    obtain ⟨head, tail, same, digit⟩ := head_of_isUnsigned unsigned
    exact ⟨head, tail, same, Or.inr digit⟩

/-- Decimal spelling of an integer. -/
def integerToken (value : Int) : List Char :=
  if value < 0 then '-' :: Nat.toDigits 10 value.natAbs else Nat.toDigits 10 value.natAbs

/-- The integer in the `i64`/`u64` range which a token spells. -/
def readInteger : List Char → Option Int
  | '-' :: digits =>
      let value := Nat.ofDigitChars 10 digits 0
      if digits = Nat.toDigits 10 value ∧ 0 < value ∧ value ≤ 2 ^ 63 then some (-value) else none
  | digits =>
      let value := Nat.ofDigitChars 10 digits 0
      if digits = Nat.toDigits 10 value ∧ value < 2 ^ 64 then some value else none

/-- An integer which fits in an `i64` or in a `u64`. -/
structure Integer where
  /-- The integer itself. -/
  value : Int
  /-- At least `i64::MIN`. -/
  lower : -(2 ^ 63) ≤ value
  /-- At most `u64::MAX`. -/
  upper : value < 2 ^ 64
  deriving DecidableEq

/-- Any other number, kept as the token which spells it: no rounding is modelled. -/
structure FloatToken where
  /-- The spelling. -/
  text : List Char
  /-- The token obeys the number grammar. -/
  isNumber : isNumberToken text = true
  /-- The token is not an integer in range. -/
  notInteger : readInteger text = none
  deriving DecidableEq

/-- A number. -/
inductive Number
  | integer (value : Integer)
  | float (token : FloatToken)
  deriving DecidableEq

end Json

/-! ## Documents -/

/-- A JSON document. -/
inductive Json
  | null
  | bool (value : Bool)
  | number (value : Json.Number)
  | string (value : String)
  | array (items : List Json)
  | object (members : List (String × Json))

namespace Json

/-- The string a document is. -/
def asStr : Json → Option String
  | .string value => some value
  | _ => none

/-- The Boolean a document is. -/
def asBool : Json → Option Bool
  | .bool value => some value
  | _ => none

/-- The integer a document is. -/
def asInteger : Json → Option Int
  | .number (.integer integer) => some integer.value
  | _ => none

/-- The non-negative integer a document is. -/
def asU64 (json : Json) : Option UInt64 :=
  json.asInteger.bind fun value => if 0 ≤ value then some (UInt64.ofNat value.toNat) else none

/-- The integer in the `i64` range a document is. -/
def asI64 (json : Json) : Option Int :=
  json.asInteger.filter fun value => value < 2 ^ 63

/-- The items of an array. -/
def asArray : Json → Option (List Json)
  | .array items => some items
  | _ => none

/-- The members of an object. -/
def asObject : Json → Option (List (String × Json))
  | .object members => some members
  | _ => none

/-- A document is null. -/
def isNull : Json → Bool
  | .null => true
  | _ => false

/-- The member of an object under a name. -/
def member (name : String) : Json → Option Json
  | .object members => members.lookup name
  | _ => none

/-! ## Sorted members -/

section Members

variable {α : Type*}

/-- Names in strictly increasing order. -/
def SortedMembers (members : List (String × α)) : Prop :=
  members.Pairwise fun left right => left.1 < right.1

/-- Store a member at the place of its name, replacing one of the same name. -/
def insertMember (name : String) (value : α) : List (String × α) → List (String × α)
  | [] => [(name, value)]
  | head :: tail =>
      if name < head.1 then (name, value) :: head :: tail
      else if name = head.1 then (name, value) :: tail
      else head :: insertMember name value tail

/-- Store members one after the other. -/
def sortMembers (members : List (String × α)) : List (String × α) :=
  members.foldl (fun sorted entry => insertMember entry.1 entry.2 sorted) []

theorem mem_insertMember {name : String} {value : α} {members : List (String × α)}
    {entry : String × α} (member : entry ∈ insertMember name value members) :
    entry = (name, value) ∨ entry ∈ members := by
  induction members with
  | nil => simpa [insertMember] using member
  | cons head tail ih =>
      simp only [insertMember] at member
      split_ifs at member
      · simpa using member
      · rcases List.mem_cons.mp member with here | later
        · exact Or.inl here
        · exact Or.inr (List.mem_cons_of_mem _ later)
      · rcases List.mem_cons.mp member with here | later
        · exact Or.inr (here ▸ List.mem_cons_self)
        · exact (ih later).imp_right (List.mem_cons_of_mem _)

theorem sorted_insertMember (name : String) (value : α) {members : List (String × α)}
    (sorted : SortedMembers members) : SortedMembers (insertMember name value members) := by
  induction members with
  | nil => simp [insertMember, SortedMembers]
  | cons head tail ih =>
      obtain ⟨head_least, tail_sorted⟩ := List.pairwise_cons.mp sorted
      simp only [insertMember]
      split_ifs with below same
      · refine List.pairwise_cons.mpr ⟨?_, sorted⟩
        intro entry member
        rcases List.mem_cons.mp member with rfl | later
        · exact below
        · exact below.trans (head_least entry later)
      · exact List.pairwise_cons.mpr ⟨fun entry later => same ▸ head_least entry later, tail_sorted⟩
      · refine List.pairwise_cons.mpr ⟨?_, ih tail_sorted⟩
        intro entry member
        rcases mem_insertMember member with rfl | later
        · exact lt_of_le_of_ne (not_lt.mp below) (Ne.symm same)
        · exact head_least entry later

theorem lookup_cons_eq_ite (entry : String × α) (members : List (String × α)) (name : String) :
    (entry :: members).lookup name =
      if name = entry.1 then some entry.2 else members.lookup name := by
  rw [List.lookup_cons]
  by_cases same : name = entry.1
  · simp [same]
  · simp [same, beq_eq_false_iff_ne.mpr same]

theorem lookup_map {β : Type*} (write : α → β) (members : List (String × α)) (name : String) :
    (members.map fun entry => (entry.1, write entry.2)).lookup name =
      (members.lookup name).map write := by
  induction members with
  | nil => rfl
  | cons entry members ih =>
      rw [List.map_cons, lookup_cons_eq_ite, lookup_cons_eq_ite, ih]
      split <;> rfl

/-- A name which does not repeat is found from either end. -/
theorem lookup_reverse {names : List String} {members : List (String × α)} {name : String}
    (known : name ∈ names)
    (distinct : ((members.map Prod.fst).filter fun name => name ∈ names).Nodup) :
    members.reverse.lookup name = members.lookup name := by
  induction members with
  | nil => rfl
  | cons entry members ih =>
      rw [List.reverse_cons, List.lookup_append, lookup_cons_eq_ite, lookup_cons_eq_ite]
      rw [List.map_cons] at distinct
      split
      next same =>
        subst same
        rw [List.filter_cons_of_pos (by simpa using known), List.nodup_cons] at distinct
        have absent : members.lookup entry.1 = none := by
          rw [List.lookup_eq_none_iff]
          intro other member
          rw [bne_iff_ne]
          intro same
          exact distinct.1 (List.mem_filter.mpr
            ⟨same ▸ List.mem_map_of_mem member, by simpa using known⟩)
        rw [ih distinct.2, absent, Option.none_or]
      next =>
        have tail_distinct := distinct.sublist ((List.sublist_cons_self _ _).filter _)
        rw [ih tail_distinct, List.lookup_nil, Option.or_none]

theorem lookup_insertMember (name : String) (value : α) (members : List (String × α))
    (other : String) :
    (insertMember name value members).lookup other =
      if other = name then some value else members.lookup other := by
  induction members with
  | nil => exact lookup_cons_eq_ite (name, value) [] other
  | cons head tail ih =>
      rw [insertMember]
      split
      · exact lookup_cons_eq_ite (name, value) (head :: tail) other
      · split
        next same_head =>
          rw [lookup_cons_eq_ite, lookup_cons_eq_ite]
          split
          · rfl
          next different => rw [if_neg (same_head ▸ different)]
        next different_head =>
          rw [lookup_cons_eq_ite, lookup_cons_eq_ite, ih]
          by_cases same : other = name
          · subst same
            rw [if_neg different_head, if_pos rfl, if_pos rfl]
          · rw [if_neg same, if_neg same]

theorem insertMember_of_greatest (name : String) (value : α) {members : List (String × α)}
    (greatest : ∀ entry ∈ members, entry.1 < name) :
    insertMember name value members = members ++ [(name, value)] := by
  induction members with
  | nil => rfl
  | cons head tail ih =>
      have below : head.1 < name := greatest head List.mem_cons_self
      simp only [insertMember, not_lt_of_gt below, below.ne', if_false, List.cons_append]
      rw [ih fun entry later => greatest entry (List.mem_cons_of_mem _ later)]

private theorem foldl_insertMember_of_sorted (front back : List (String × α))
    (sorted : SortedMembers (front ++ back)) :
    back.foldl (fun sorted entry => insertMember entry.1 entry.2 sorted) front = front ++ back := by
  induction back generalizing front with
  | nil => simp
  | cons entry back ih =>
      have greatest : ∀ earlier ∈ front, earlier.1 < entry.1 := fun earlier member =>
        (List.pairwise_append.mp sorted).2.2 earlier member entry List.mem_cons_self
      rw [List.foldl_cons, insertMember_of_greatest _ _ greatest, ih]
      · simp
      · simpa using sorted

theorem sortMembers_of_sorted {members : List (String × α)} (sorted : SortedMembers members) :
    sortMembers members = members :=
  foldl_insertMember_of_sorted [] members sorted

theorem sorted_sortMembers (members : List (String × α)) : SortedMembers (sortMembers members) := by
  induction members using List.reverseRecOn with
  | nil => exact List.Pairwise.nil
  | append_singleton members entry ih =>
      rw [sortMembers, List.foldl_append]
      exact sorted_insertMember entry.1 entry.2 ih

theorem mem_sortMembers {members : List (String × α)} {entry : String × α}
    (member : entry ∈ sortMembers members) : entry ∈ members := by
  induction members using List.reverseRecOn with
  | nil => exact member
  | append_singleton members last ih =>
      rw [sortMembers, List.foldl_append] at member
      rcases mem_insertMember member with rfl | earlier
      · simp
      · exact List.mem_append_left _ (ih earlier)

/-- The last member of a name wins. -/
theorem lookup_sortMembers (members : List (String × α)) (name : String) :
    (sortMembers members).lookup name = members.reverse.lookup name := by
  induction members using List.reverseRecOn with
  | nil => rfl
  | append_singleton members last ih =>
      rw [sortMembers, List.foldl_append]
      simp only [List.foldl_cons, List.foldl_nil, List.reverse_append, List.reverse_cons,
        List.reverse_nil, List.nil_append, List.singleton_append]
      rw [lookup_insertMember, lookup_cons_eq_ite, ← ih, sortMembers]

end Members

/-! ## Canonical values -/

/-- Every object of the document lists its members in strictly increasing name order. -/
inductive Canonical : Json → Prop
  | null : Canonical .null
  | bool (value : Bool) : Canonical (.bool value)
  | number (value : Number) : Canonical (.number value)
  | string (value : String) : Canonical (.string value)
  | array {items : List Json} : (∀ item ∈ items, Canonical item) → Canonical (.array items)
  | object {members : List (String × Json)} : SortedMembers members →
      (∀ entry ∈ members, Canonical entry.2) → Canonical (.object members)

mutual

/-- Bring every object of a document into canonical form. -/
def normalize : Json → Json
  | .null => .null
  | .bool value => .bool value
  | .number value => .number value
  | .string value => .string value
  | .array items => .array (normalizeItems items)
  | .object members => .object (sortMembers (normalizeMembers members))

/-- Normalise each item of an array. -/
def normalizeItems : List Json → List Json
  | [] => []
  | item :: items => normalize item :: normalizeItems items

/-- Normalise the value of each member. -/
def normalizeMembers : List (String × Json) → List (String × Json)
  | [] => []
  | (name, value) :: members => (name, normalize value) :: normalizeMembers members

end

theorem normalizeItems_eq_map (items : List Json) : normalizeItems items = items.map normalize := by
  induction items with
  | nil => rfl
  | cons item items ih => simp [normalizeItems, ih]

theorem normalizeMembers_eq_map (members : List (String × Json)) :
    normalizeMembers members = members.map fun entry => (entry.1, normalize entry.2) := by
  induction members with
  | nil => rfl
  | cons entry members ih => simp [normalizeMembers, ih]

/-- A canonical document is its own normal form. -/
theorem normalize_of_canonical {json : Json} (canonical : json.Canonical) :
    json.normalize = json := by
  induction canonical with
  | null | bool | number | string => rfl
  | array _ ih =>
      rw [normalize, normalizeItems_eq_map, List.map_congr_left ih, List.map_id']
  | @object members sorted _ ih =>
      have kept : members.map (fun entry => (entry.1, normalize entry.2)) = members := by
        conv_rhs => rw [← List.map_id members]
        exact List.map_congr_left fun entry member => Prod.ext rfl (ih entry member)
      rw [normalize, normalizeMembers_eq_map, kept, sortMembers_of_sorted sorted]

mutual

/-- A normal form is canonical. -/
theorem canonical_normalize : (json : Json) → json.normalize.Canonical
  | .null => .null
  | .bool value => .bool value
  | .number value => .number value
  | .string value => .string value
  | .array items => .array (canonical_normalizeItems items)
  | .object members =>
      .object (sorted_sortMembers _) fun entry member =>
        canonical_normalizeMembers members entry (mem_sortMembers member)

private theorem canonical_normalizeItems :
    (items : List Json) → ∀ item ∈ normalizeItems items, item.Canonical
  | [], _, member => by simp [normalizeItems] at member
  | head :: items, item, member => by
      rcases List.mem_cons.mp member with rfl | later
      · exact canonical_normalize head
      · exact canonical_normalizeItems items item later

private theorem canonical_normalizeMembers :
    (members : List (String × Json)) → ∀ entry ∈ normalizeMembers members, entry.2.Canonical
  | [], _, member => by simp [normalizeMembers] at member
  | (name, value) :: members, entry, member => by
      rcases List.mem_cons.mp member with rfl | later
      · exact canonical_normalize value
      · exact canonical_normalizeMembers members entry later

end

/-- A document in canonical form. -/
@[ext]
structure Value where
  /-- The canonical document. -/
  doc : Json
  /-- Its objects are maps in name order. -/
  canonical : doc.Canonical

namespace Value

/-- The value a document denotes. -/
def ofJson (json : Json) : Value := ⟨json.normalize, canonical_normalize json⟩

/-- The null value. -/
def null : Value := ⟨.null, .null⟩

/-- A Boolean value. -/
def bool (value : Bool) : Value := ⟨.bool value, .bool value⟩

/-- A string value. -/
def string (value : String) : Value := ⟨.string value, .string value⟩

/-- An integer value. -/
def integer (value : Integer) : Value := ⟨.number (.integer value), .number _⟩

/-- A `u64` value. -/
def u64 (value : UInt64) : Value :=
  integer ⟨value.toNat, by omega, by have := value.toNat_lt; omega⟩

/-- An array of values. -/
def array (items : List Value) : Value :=
  ⟨.array (items.map doc), .array fun item member => by
    obtain ⟨value, -, rfl⟩ := List.mem_map.mp member
    exact value.canonical⟩

/-- An object built by storing its members one after the other. -/
def object (members : List (String × Value)) : Value :=
  ⟨.object (sortMembers (members.map fun entry => (entry.1, entry.2.doc))),
    .object (sorted_sortMembers _) fun entry member => by
      obtain ⟨source, -, rfl⟩ := List.mem_map.mp (mem_sortMembers member)
      exact source.2.canonical⟩

/-- The member of a value under a name. -/
def get (value : Value) (name : String) : Option Json := value.doc.member name

/-- The member of a value under a name, null when there is none. -/
def getOrNull (value : Value) (name : String) : Value := ((value.get name).map ofJson).getD .null

@[simp] theorem ofJson_doc (value : Value) : ofJson value.doc = value :=
  Value.ext (normalize_of_canonical value.canonical)

theorem get_object (members : List (String × Value)) (name : String) :
    (object members).get name = (members.reverse.lookup name).map doc := by
  change (sortMembers (members.map fun entry => (entry.1, entry.2.doc))).lookup name = _
  rw [lookup_sortMembers, ← List.map_reverse, lookup_map]

/-- Of the members of one name in a document, the value has the last one. -/
theorem get_ofJson_object (members : List (String × Json)) (name : String) :
    (ofJson (.object members)).get name = (members.reverse.lookup name).map normalize := by
  change (sortMembers (normalizeMembers members)).lookup name = _
  rw [lookup_sortMembers, normalizeMembers_eq_map, ← List.map_reverse, lookup_map]

@[simp] theorem asStr_string (value : String) : (string value).doc.asStr = some value := rfl

@[simp] theorem asBool_bool (value : Bool) : (bool value).doc.asBool = some value := rfl

@[simp] theorem asU64_u64 (value : UInt64) : (u64 value).doc.asU64 = some value := by
  simp [u64, integer, asU64, asInteger]

end Value

end Json
