import TeamComm.Library.HashMap

/-!
# Tables which encode maps

A table holds one row under each primary key, and a row is read back by a decoder which may fail.
A table encodes a map when every key reads back as what the map holds under it.  Upserting and
deleting a row follow an update of the map; a deletion of many rows, as a cascade performs it,
follows no update at all unless it deletes nothing.  A listing decodes rows one by one and fails
with the first which does not decode.
-/

namespace Table

variable {Key Row Value Error : Type*} [DecidableEq Key] {decode : Key → Row → Except Error Value}
  {table : HashMap Key Row} {map : HashMap Key Value}

/-- Read the row under a key. -/
def read (decode : Key → Row → Except Error Value) (table : HashMap Key Row) (key : Key) :
    Except Error (Option Value) :=
  match table.get key with
  | none => .ok none
  | some row => (decode key row).map some

theorem read_eq_none {key : Key} : read decode table key = .ok none ↔ table.get key = none := by
  unfold read
  cases table.get key with
  | none => simp
  | some row => cases decoded : decode key row <;> simp [Except.map, decoded]

theorem read_eq_some {key : Key} {value : Value} : read decode table key = .ok (some value) ↔
    ∃ row, table.get key = some row ∧ decode key row = .ok value := by
  unfold read
  cases table.get key with
  | none => simp
  | some row => cases decoded : decode key row <;> simp [Except.map, decoded]

/-- Every key reads back as what the map holds under it. -/
def Encodes (decode : Key → Row → Except Error Value) (table : HashMap Key Row)
    (map : HashMap Key Value) : Prop :=
  ∀ key, read decode table key = .ok (map.get key)

namespace Encodes

theorem empty : Encodes decode (∅ : HashMap Key Row) (∅ : HashMap Key Value) := fun _ => rfl

/-- A value of the map is stored in a row. -/
theorem stored (encodes : Encodes decode table map) {key : Key} {value : Value}
    (found : map.get key = some value) :
    ∃ row, table.get key = some row ∧ decode key row = .ok value :=
  read_eq_some.mp (found ▸ encodes key)

/-- A row stores a value of the map. -/
theorem decoded (encodes : Encodes decode table map) {key : Key} {row : Row}
    (found : table.get key = some row) :
    ∃ value, map.get key = some value ∧ decode key row = .ok value := by
  have here := encodes key
  cases held : map.get key with
  | none =>
      rw [held, read_eq_none, found] at here
      cases here
  | some value =>
      obtain ⟨other, other_found, result⟩ := encodes.stored held
      obtain rfl := Option.some.inj (found.symm.trans other_found)
      exact ⟨value, rfl, result⟩

theorem get_eq_none (encodes : Encodes decode table map) {key : Key} :
    table.get key = none ↔ map.get key = none := by
  have here := encodes key
  constructor
  · intro absent
    rw [read_eq_none.mpr absent] at here
    exact (Except.ok.inj here).symm
  · intro absent
    rw [absent] at here
    exact read_eq_none.mp here

theorem containsKey (encodes : Encodes decode table map) (key : Key) :
    table.containsKey key = map.containsKey key := by
  rw [Bool.eq_iff_iff, HashMap.containsKey_iff, HashMap.containsKey_iff]
  constructor
  · rintro ⟨row, found⟩
    obtain ⟨value, held, -⟩ := encodes.decoded found
    exact ⟨value, held⟩
  · rintro ⟨value, held⟩
    obtain ⟨row, found, -⟩ := encodes.stored held
    exact ⟨row, found⟩

/-- A row which reads back as a value is upserted along with the value. -/
theorem insert (encodes : Encodes decode table map) {key : Key} {row : Row} {value : Value}
    (result : decode key row = .ok value) :
    Encodes decode (table.insert key row) (map.insert key value) := by
  intro other
  by_cases same : other = key
  · subst same
    rw [HashMap.get_insert_self]
    exact read_eq_some.mpr ⟨row, HashMap.get_insert_self _ _ _, result⟩
  · rw [HashMap.get_insert_of_ne _ _ same, ← encodes other]
    simp only [read, HashMap.get_insert_of_ne _ _ same]

/-- A row is deleted along with its value. -/
theorem remove (encodes : Encodes decode table map) (key : Key) :
    Encodes decode (table.remove key) (map.remove key) := by
  intro other
  by_cases same : other = key
  · simp [read, HashMap.get_remove, same]
  · rw [HashMap.get_remove, if_neg same, ← encodes other]
    simp only [read, HashMap.get_remove, if_neg same]

/-- Deleting rows leaves the map encoded exactly when no row is deleted. -/
theorem retain_iff (encodes : Encodes decode table map) (keep : Key → Row → Bool) :
    Encodes decode (table.retain keep) map ↔
      ∀ key row, table.get key = some row → keep key row = true := by
  constructor
  · intro kept key row found
    obtain ⟨value, held, -⟩ := encodes.decoded found
    obtain ⟨other, other_found, -⟩ := kept.stored held
    obtain ⟨original, passes⟩ := HashMap.get_retain_eq_some.mp other_found
    obtain rfl := Option.some.inj (found.symm.trans original)
    exact passes
  · intro kept key
    have same : (table.retain keep).get key = table.get key := by
      rw [HashMap.get_retain]
      cases found : table.get key with
      | none => rfl
      | some row => rw [Option.filter_some, if_pos (kept key row found)]
    rw [← encodes key]
    simp only [read, same]

end Encodes

/-! ## Encoded keys -/

section Keys

variable {Index Column Owner : Type*} [DecidableEq Index] [DecidableEq Column]

/-- A table holds a map under encodings of its keys, and nothing under other keys. -/
def EncodesUnder (encode : Index → Column) (table : HashMap Column Owner)
    (map : HashMap Index Owner) : Prop :=
  ∀ column owner, table.get column = some owner ↔
    ∃ index, encode index = column ∧ map.get index = some owner

namespace EncodesUnder

variable {encode : Index → Column} {table : HashMap Column Owner} {map : HashMap Index Owner}

theorem empty : EncodesUnder encode (∅ : HashMap Column Owner) ∅ := fun column owner => by simp

theorem get_encode (encodes : EncodesUnder encode table map) (injective : Function.Injective encode)
    (index : Index) : table.get (encode index) = map.get index := by
  apply Option.ext
  intro owner
  rw [encodes]
  constructor
  · rintro ⟨other, same, held⟩
    exact injective same ▸ held
  · exact fun held => ⟨index, rfl, held⟩

theorem insert (encodes : EncodesUnder encode table map) (injective : Function.Injective encode)
    (index : Index) (owner : Owner) :
    EncodesUnder encode (table.insert (encode index) owner) (map.insert index owner) := by
  intro column other
  rw [HashMap.get_insert]
  constructor
  · intro found
    split at found
    next here => exact ⟨index, here.symm, by rw [HashMap.get_insert_self, found]⟩
    next elsewhere =>
      obtain ⟨another, rfl, held⟩ := (encodes column other).mp found
      have different : another ≠ index := fun same => elsewhere (congrArg encode same)
      exact ⟨another, rfl, (HashMap.get_insert_of_ne _ _ different).trans held⟩
  · rintro ⟨another, rfl, held⟩
    rw [HashMap.get_insert] at held
    by_cases same : another = index
    · rw [if_pos same] at held
      rw [if_pos (congrArg encode same), held]
    · rw [if_neg same] at held
      rw [if_neg fun equal => same (injective equal)]
      exact (encodes _ other).mpr ⟨another, rfl, held⟩

/-- Nothing changes when the entry is there already. -/
theorem insert_indexed (encodes : EncodesUnder encode table map) {index : Index} {owner : Owner}
    (indexed : map.get index = some owner) :
    EncodesUnder encode (table.insert (encode index) owner) map := by
  intro column other
  rw [← encodes column other, HashMap.get_insert]
  split
  next here => rw [here, (encodes _ owner).mpr ⟨index, rfl, indexed⟩]
  next => rfl

/-- Deleting whatever leads to an owner follows the removal of one key exactly when no other key
leads to the owner. -/
theorem delete_iff [DecidableEq Owner] (encodes : EncodesUnder encode table map)
    {decode : Column → Index} (inverse : Function.LeftInverse decode encode) {index : Index}
    {column : Column} {gone : Owner} (indexed : map.get index = some gone)
    (read : decode column = index) :
    EncodesUnder encode ((table.retain fun _ owner => owner ≠ gone).remove column)
        (map.remove index) ↔
      ∀ other, map.get other = some gone → other = index := by
  have get_deleted (at_column : Column) (owner : Owner) :
      ((table.retain fun _ owner => owner ≠ gone).remove column).get at_column = some owner ↔
        at_column ≠ column ∧ table.get at_column = some owner ∧ owner ≠ gone := by
    rw [HashMap.get_remove_eq_some, HashMap.get_retain_eq_some, decide_eq_true_iff]
  constructor
  · intro after other leads
    by_contra different
    have stays := (after (encode other) gone).mpr
      ⟨other, rfl, HashMap.get_remove_eq_some.mpr ⟨different, leads⟩⟩
    exact ((get_deleted _ gone).mp stays).2.2 rfl
  · intro only at_column owner
    rw [get_deleted]
    constructor
    · rintro ⟨-, found, different⟩
      obtain ⟨other, rfl, held⟩ := (encodes at_column owner).mp found
      refine ⟨other, rfl, HashMap.get_remove_eq_some.mpr ⟨?_, held⟩⟩
      rintro rfl
      exact different (Option.some.inj (held.symm.trans indexed))
    · rintro ⟨other, rfl, held⟩
      obtain ⟨apart, held⟩ := HashMap.get_remove_eq_some.mp held
      refine ⟨?_, (encodes _ owner).mpr ⟨other, rfl, held⟩, ?_⟩
      · rintro rfl
        exact apart (by rw [← read, inverse])
      · rintro rfl
        exact apart (only other held)

end EncodesUnder

end Keys

/-! ## Listings -/

section Listings

variable {Entry : Type*} {decode : Entry → Except Error Value} {entries : List Entry}
  {values : List Value}

/-- A listing decodes its rows one by one. -/
theorem list_eq_ok : entries.mapM decode = .ok values ↔
    List.Forall₂ (fun entry value => decode entry = .ok value) entries values := by
  induction entries generalizing values with
  | nil => simp [pure, Except.pure, eq_comm]
  | cons entry entries ih =>
      rw [List.forall₂_cons_left_iff, List.mapM_cons]
      constructor
      · intro listed
        cases first : decode entry with
        | error => rw [first] at listed; cases listed
        | ok value =>
            cases rest : entries.mapM decode with
            | error => rw [first, rest] at listed; cases listed
            | ok values =>
                rw [first, rest] at listed
                exact ⟨value, values, rfl, ih.mp rest, (Except.ok.inj listed).symm⟩
      · rintro ⟨value, values, first, rest, rfl⟩
        rw [first, ih.mpr rest]
        rfl

/-- A listing succeeds as long as every row decodes. -/
theorem exists_list : (∃ values, entries.mapM decode = .ok values) ↔
    ∀ entry ∈ entries, ∃ value, decode entry = .ok value := by
  constructor
  · rintro ⟨values, listed⟩
    have decoded := list_eq_ok.mp listed
    clear listed
    induction decoded with
    | nil => exact fun entry member => absurd member List.not_mem_nil
    | cons first _ ih =>
        intro entry member
        rcases List.mem_cons.mp member with rfl | later
        · exact ⟨_, first⟩
        · exact ih entry later
  · intro decodes
    induction entries with
    | nil => exact ⟨[], rfl⟩
    | cons entry entries ih =>
        obtain ⟨value, first⟩ := decodes entry List.mem_cons_self
        obtain ⟨values, rest⟩ := ih fun other later => decodes other (List.mem_cons_of_mem _ later)
        exact ⟨value :: values, list_eq_ok.mpr (.cons first (list_eq_ok.mp rest))⟩

/-- A listing contains what its rows decode to. -/
theorem mem_list (listed : entries.mapM decode = .ok values) {value : Value} :
    value ∈ values ↔ ∃ entry ∈ entries, decode entry = .ok value := by
  induction list_eq_ok.mp listed with
  | nil => simp
  | @cons entry other entries values first rest ih =>
      rw [List.mem_cons, ih (list_eq_ok.mpr rest), List.exists_mem_cons_iff, first, Except.ok.injEq,
        eq_comm]

/-- A listing of related rows contains related values. -/
theorem list_pairwise {before : Entry → Entry → Prop} {related : Value → Value → Prop}
    (listed : entries.mapM decode = .ok values) (ordered : entries.Pairwise before)
    (relates : ∀ left ∈ entries, ∀ right ∈ entries, before left right → ∀ value other,
      decode left = .ok value → decode right = .ok other → related value other) :
    values.Pairwise related := by
  induction list_eq_ok.mp listed with
  | nil => exact List.Pairwise.nil
  | @cons entry value entries values first rest ih =>
      obtain ⟨front, ordered⟩ := List.pairwise_cons.mp ordered
      have listed_rest := list_eq_ok.mpr rest
      refine List.Pairwise.cons (fun other member => ?_) (ih listed_rest ordered ?_)
      · obtain ⟨row, row_member, decoded⟩ := (mem_list listed_rest).mp member
        exact relates entry List.mem_cons_self row (List.mem_cons_of_mem _ row_member)
          (front row row_member) value other first decoded
      · exact fun left left_member right right_member =>
          relates left (List.mem_cons_of_mem _ left_member) right
            (List.mem_cons_of_mem _ right_member)

end Listings

end Table
