import Mathlib.Data.List.AList
import Mathlib.Logic.Function.Basic

/-!
# Hash maps and their iteration order

A hash map is observed through its entries, one for each key.  The order of the entry list means
nothing: an operation that iterates over a map receives an `IterOrder`, an arbitrary rearrangement
of what it visits, and a result about every `IterOrder` is one about every iteration order.
-/

/-- A finite map with one entry for each key. -/
abbrev HashMap (Key Value : Type*) := AList fun _ : Key => Value

namespace HashMap

variable {Key Value : Type*} [DecidableEq Key]

/-- The value stored under a key. -/
def get (map : HashMap Key Value) (key : Key) : Option Value := map.lookup key

/-- Whether a key has an entry. -/
def containsKey (map : HashMap Key Value) (key : Key) : Bool := (map.get key).isSome

/-- Store a value under a key, replacing what was there. -/
def insert (map : HashMap Key Value) (key : Key) (value : Value) : HashMap Key Value :=
  AList.insert key value map

/-- Drop the entry of a key. -/
def remove (map : HashMap Key Value) (key : Key) : HashMap Key Value := map.erase key

/-- Keep the entries which pass a test. -/
def retain (map : HashMap Key Value) (keep : Key → Value → Bool) : HashMap Key Value where
  entries := map.entries.filter fun entry => keep entry.1 entry.2
  nodupKeys := map.nodupKeys.sublist List.filter_sublist

/-- Change the value under a key where it stands. -/
def modify (map : HashMap Key Value) (key : Key) (change : Value → Value) : HashMap Key Value where
  entries := map.entries.map fun entry =>
    if entry.1 = key then ⟨entry.1, change entry.2⟩ else entry
  nodupKeys := by
    unfold List.NodupKeys List.keys
    rw [List.map_map]
    have same_keys : (Sigma.fst ∘ fun entry : Σ _ : Key, Value =>
        if entry.1 = key then ⟨entry.1, change entry.2⟩ else entry) = Sigma.fst := by
      funext entry
      simp only [Function.comp_apply, apply_ite, ite_self]
    rw [same_keys]
    exact map.nodupKeys

/-- The stored values, one for each entry. -/
def values (map : HashMap Key Value) : List Value := map.entries.map Sigma.snd

@[simp] theorem get_empty (key : Key) : get (∅ : HashMap Key Value) key = none := rfl

theorem get_insert (map : HashMap Key Value) (key : Key) (value : Value) (other : Key) :
    (map.insert key value).get other = if other = key then some value else map.get other := by
  by_cases same : other = key
  · subst same
    simp [get, insert]
  · simp [get, insert, AList.lookup_insert_ne same, same]

@[simp] theorem get_insert_self (map : HashMap Key Value) (key : Key) (value : Value) :
    (map.insert key value).get key = some value := by
  simp [get_insert]

theorem get_insert_of_ne (map : HashMap Key Value) {key other : Key} (value : Value)
    (different : other ≠ key) : (map.insert key value).get other = map.get other := by
  simp [get_insert, different]

theorem get_remove (map : HashMap Key Value) (key other : Key) :
    (map.remove key).get other = if other = key then none else map.get other := by
  by_cases same : other = key
  · subst same
    simp [get, remove]
  · simp [get, remove, AList.lookup_erase_ne same, same]

/-- An entry stays exactly when its key is another one. -/
theorem get_remove_eq_some {map : HashMap Key Value} {key other : Key} {value : Value} :
    (map.remove key).get other = some value ↔ other ≠ key ∧ map.get other = some value := by
  rw [get_remove]
  split
  next same => simp [same]
  next different => rw [and_iff_right different]

theorem get_insert_eq_update (map : HashMap Key Value) (key : Key) (value : Value) :
    (map.insert key value).get = Function.update map.get key (some value) := by
  funext other
  rw [get_insert, Function.update_apply]

theorem get_remove_eq_update (map : HashMap Key Value) (key : Key) :
    (map.remove key).get = Function.update map.get key none := by
  funext other
  rw [get_remove, Function.update_apply]

/-- Dropping a key without an entry changes nothing. -/
theorem remove_of_get_none {map : HashMap Key Value} {key : Key} (absent : map.get key = none) :
    map.remove key = map := by
  apply AList.ext
  have missing : key ∉ map.entries.keys := AList.lookup_eq_none.mp absent
  exact List.kerase_of_notMem_keys missing

theorem containsKey_iff {map : HashMap Key Value} {key : Key} :
    map.containsKey key = true ↔ ∃ value, map.get key = some value :=
  Option.isSome_iff_exists

theorem containsKey_insert (map : HashMap Key Value) (key : Key) (value : Value) (other : Key) :
    (map.insert key value).containsKey other = true ↔
      other = key ∨ map.containsKey other = true := by
  rw [containsKey, get_insert]
  split
  next same => simp [same]
  next different => simp [different, containsKey]

theorem containsKey_remove (map : HashMap Key Value) (key other : Key) :
    (map.remove key).containsKey other = true ↔ other ≠ key ∧ map.containsKey other = true := by
  rw [containsKey, get_remove]
  split
  next same => simp [same]
  next different => simp [different, containsKey]

theorem mem_entries {map : HashMap Key Value} {key : Key} {value : Value} :
    (⟨key, value⟩ : Sigma fun _ : Key => Value) ∈ map.entries ↔ map.get key = some value :=
  AList.mem_lookup_iff.symm

theorem mem_values {map : HashMap Key Value} {value : Value} :
    value ∈ map.values ↔ ∃ key, map.get key = some value := by
  simp only [values, List.mem_map]
  constructor
  · rintro ⟨⟨key, stored⟩, member, rfl⟩
    exact ⟨key, mem_entries.mp member⟩
  · rintro ⟨key, found⟩
    exact ⟨⟨key, value⟩, mem_entries.mpr found, rfl⟩

theorem get_retain (map : HashMap Key Value) (keep : Key → Value → Bool) (key : Key) :
    (map.retain keep).get key = (map.get key).filter (keep key) := by
  apply Option.ext
  intro value
  rw [← mem_entries, Option.filter_eq_some_iff, ← mem_entries]
  exact List.mem_filter

/-- An entry is kept exactly when it passes the test. -/
theorem get_retain_eq_some {map : HashMap Key Value} {keep : Key → Value → Bool} {key : Key}
    {value : Value} : (map.retain keep).get key = some value ↔
      map.get key = some value ∧ keep key value = true := by
  rw [get_retain, Option.filter_eq_some_iff]

theorem get_modify (map : HashMap Key Value) (key : Key) (change : Value → Value) (other : Key) :
    (map.modify key change).get other =
      if other = key then (map.get other).map change else map.get other := by
  apply Option.ext
  intro value
  rw [← mem_entries]
  change _ ∈ map.entries.map _ ↔ _
  rw [List.mem_map]
  constructor
  · rintro ⟨⟨at_key, stored⟩, member, same⟩
    rw [mem_entries] at member
    dsimp only at same
    split at same
    next here =>
      cases same
      rw [if_pos here, member, Option.map_some]
    next elsewhere =>
      cases same
      rw [if_neg elsewhere, member]
  · intro found
    split at found
    next here =>
      obtain ⟨stored, member, rfl⟩ := Option.map_eq_some_iff.mp found
      exact ⟨⟨other, stored⟩, mem_entries.mpr member, if_pos here⟩
    next elsewhere => exact ⟨⟨other, value⟩, mem_entries.mpr found, if_neg elsewhere⟩

/-- A change in place leaves the map alone exactly when it leaves the value alone. -/
theorem modify_eq_self {map : HashMap Key Value} {key : Key} {change : Value → Value} :
    map.modify key change = map ↔ ∀ value, map.get key = some value → change value = value := by
  constructor
  · intro unchanged value found
    have changed := get_modify map key change key
    rw [unchanged, if_pos rfl, found, Option.map_some] at changed
    exact (Option.some.inj changed).symm
  · intro fixed
    apply AList.ext
    refine (List.map_congr_left fun entry member => ?_).trans (List.map_id _)
    obtain ⟨at_key, stored⟩ := entry
    dsimp only
    split
    next here =>
      subst here
      rw [fixed stored (mem_entries.mp member)]
      rfl
    next => rfl

/-- A field which determines the key takes pairwise distinct values over the stored ones. -/
theorem values_map_nodup {Field : Type*} {map : HashMap Key Value} {field : Value → Field}
    (determines : ∀ {key other value another}, map.get key = some value →
      map.get other = some another → field value = field another → key = other) :
    (map.values.map field).Nodup := by
  rw [values, List.map_map]
  apply List.Nodup.map_on
  · rintro ⟨key, value⟩ member ⟨other, another⟩ other_member same
    rw [mem_entries] at member other_member
    obtain rfl := determines member other_member same
    obtain rfl := Option.some.inj (member.symm.trans other_member)
    rfl
  · exact map.nodupKeys.nodup

end HashMap

/-! ## Reverse indexes -/

/-- The index leads from a field of a stored value back to its key, and from nowhere else. -/
structure ReverseIndex {Key Value Index : Type*} [DecidableEq Key] [DecidableEq Index]
    (field : Value → Index) (map : HashMap Key Value) (index : HashMap Index Key) : Prop where
  /-- Every stored value is indexed. -/
  indexed : ∀ {key value}, map.get key = some value → index.get (field value) = some key
  /-- Every index entry leads to a stored value with that field. -/
  stored : ∀ {at_field key}, index.get at_field = some key →
    ∃ value, map.get key = some value ∧ field value = at_field

namespace ReverseIndex

variable {Key Value Index : Type*} [DecidableEq Key] [DecidableEq Index] {field : Value → Index}
  {map : HashMap Key Value} {index : HashMap Index Key}

theorem empty : ReverseIndex field (∅ : HashMap Key Value) ∅ :=
  ⟨fun found => by simp at found, fun found => by simp at found⟩

/-- The field determines the key. -/
theorem determines (mirror : ReverseIndex field map index) {key other : Key}
    {value another : Value} (found : map.get key = some value)
    (other_found : map.get other = some another) (same : field value = field another) :
    key = other :=
  Option.some.inj ((mirror.indexed found).symm.trans (same ▸ mirror.indexed other_found))

/-- A value enters under a new key and a field which is not indexed. -/
theorem insert_new (mirror : ReverseIndex field map index) {key : Key} {value : Value}
    (new_key : map.get key = none) (new_field : index.get (field value) = none) :
    ReverseIndex field (map.insert key value) (index.insert (field value) key) where
  indexed := by
    intro other stored found
    rw [HashMap.get_insert] at found
    split at found
    next same => simp [same, Option.some.inj found]
    next =>
      have already := mirror.indexed found
      have different : field stored ≠ field value := fun same => by
        rw [same, new_field] at already
        cases already
      rw [HashMap.get_insert_of_ne _ _ different, already]
  stored := by
    intro at_field other found
    rw [HashMap.get_insert] at found
    split at found
    next same =>
      obtain rfl := Option.some.inj found
      exact ⟨value, HashMap.get_insert_self _ _ _, same.symm⟩
    next =>
      obtain ⟨stored, stored_found, same⟩ := mirror.stored found
      have different : other ≠ key := fun same_key => by
        rw [same_key, new_key] at stored_found
        cases stored_found
      exact ⟨stored, (HashMap.get_insert_of_ne _ _ different).trans stored_found, same⟩

/-- A stored value is replaced by one with the same field. -/
theorem update (mirror : ReverseIndex field map index) {key : Key} {value updated : Value}
    (found : map.get key = some value) (same : field updated = field value) :
    ReverseIndex field (map.insert key updated) index where
  indexed := by
    intro other stored other_found
    rw [HashMap.get_insert] at other_found
    split at other_found
    next same_key => rw [same_key, ← Option.some.inj other_found, same, mirror.indexed found]
    next => exact mirror.indexed other_found
  stored := by
    intro at_field other indexed
    obtain ⟨stored, stored_found, at_same⟩ := mirror.stored indexed
    by_cases same_key : other = key
    · subst same_key
      obtain rfl := Option.some.inj (found.symm.trans stored_found)
      exact ⟨updated, HashMap.get_insert_self _ _ _, same.trans at_same⟩
    · exact ⟨stored, (HashMap.get_insert_of_ne _ _ same_key).trans stored_found, at_same⟩

/-- A stored value leaves together with its index entry. -/
theorem remove (mirror : ReverseIndex field map index) {key : Key} {value : Value}
    (found : map.get key = some value) :
    ReverseIndex field (map.remove key) (index.remove (field value)) where
  indexed := by
    intro other stored other_found
    obtain ⟨different, other_found⟩ := HashMap.get_remove_eq_some.mp other_found
    rw [HashMap.get_remove, if_neg, mirror.indexed other_found]
    exact fun same => different (mirror.determines other_found found same)
  stored := by
    intro at_field other indexed
    obtain ⟨different, indexed⟩ := HashMap.get_remove_eq_some.mp indexed
    obtain ⟨stored, stored_found, rfl⟩ := mirror.stored indexed
    refine ⟨stored, ?_, rfl⟩
    rw [HashMap.get_remove, if_neg, stored_found]
    rintro rfl
    obtain rfl := Option.some.inj (found.symm.trans stored_found)
    exact different rfl

end ReverseIndex

/-! ## Iteration -/

/-- An order in which a map's entries are visited. -/
structure IterOrder where
  /-- Rearrange the visited entries. -/
  arrange : {α : Type} → List α → List α
  /-- Each entry is visited exactly once. -/
  perm : ∀ {α : Type} (entries : List α), (arrange entries).Perm entries

namespace IterOrder

/-- Visit the entries as they are stored. -/
def stored : IterOrder where
  arrange entries := entries
  perm _ := List.Perm.refl _

@[simp] theorem mem_arrange {α : Type} {order : IterOrder} {entries : List α} {entry : α} :
    entry ∈ order.arrange entries ↔ entry ∈ entries :=
  (order.perm entries).mem_iff

/-- A search which can only end at one entry ends there in every order. -/
theorem findSome?_arrange {α β : Type} (order : IterOrder) {entries : List α} {find : α → Option β}
    (unique : ∀ entry ∈ entries, ∀ other ∈ entries,
      (find entry).isSome = true → (find other).isSome = true → entry = other) :
    (order.arrange entries).findSome? find = entries.findSome? find := by
  cases found : entries.findSome? find with
  | none =>
      rw [List.findSome?_eq_none_iff] at found ⊢
      exact fun entry member => found entry (mem_arrange.mp member)
  | some result =>
      obtain ⟨entry, member, here⟩ := List.exists_of_findSome?_eq_some found
      cases arranged : (order.arrange entries).findSome? find with
      | none =>
          rw [List.findSome?_eq_none_iff] at arranged
          rw [arranged entry (mem_arrange.mpr member)] at here
          cases here
      | some other_result =>
          obtain ⟨other, other_member, there⟩ := List.exists_of_findSome?_eq_some arranged
          obtain rfl := unique entry member other (mem_arrange.mp other_member) (by simp [here])
            (by simp [there])
          exact there.symm.trans here

end IterOrder
