import Mathlib.Algebra.Group.Int.Defs
import MockSchema.Proofs.Outcome
import MockSchema.Value.OfYaml

/-!
# Keys that no object can have

A YAML value is converted unless a mapping in it has a key that is no plain scalar. What the conversion meets is
the list of all keys in the order of the document, and the first one among them that cannot be a key is the error
(`Value.fault?_ofYaml`). Nothing else makes it fail: numbers that are no signed words become floats, and tags on
values are passed over (`Value.ofYaml_refuses_keys`).
-/

namespace MockSchema

namespace Yaml.Value

/-- What cannot be the key of an object: null, a sequence, a mapping, and anything with a tag. -/
def isUnsupportedKey : Value → Bool
  | .null | .sequence _ | .mapping _ | .tagged _ _ => true
  | .bool _ | .number _ | .string _ => false

theorem keyText?_isNone (k : Value) : k.keyText?.isNone = k.isUnsupportedKey := by
  cases k <;> rfl

/-- A mapping is anywhere in a value: in an item of a sequence, in a key or a value of another mapping, or behind a
tag. -/
inductive HasMapping (entries : List (Value × Value)) : Value → Prop
  | here : HasMapping entries (.mapping entries)
  | item {v items} (member : v ∈ items) (inside : HasMapping entries v) : HasMapping entries (.sequence items)
  | key {k v others} (member : (k, v) ∈ others) (inside : HasMapping entries k) :
      HasMapping entries (.mapping others)
  | value {k v others} (member : (k, v) ∈ others) (inside : HasMapping entries v) :
      HasMapping entries (.mapping others)
  | tagged {tag v} (inside : HasMapping entries v) : HasMapping entries (.tagged tag v)

/-! ## The order of the document -/

mutual

/-- The keys of the mappings in a value in the order of the document, each in front of those in the value next to
it. What is inside a key is not looked at. -/
def keys : Value → List Value
  | .sequence items => itemKeys items
  | .mapping entries => entryKeys entries
  | .tagged _ v => v.keys
  | .null | .bool _ | .number _ | .string _ => []

def itemKeys : List Value → List Value
  | [] => []
  | v :: rest => v.keys ++ itemKeys rest

def entryKeys : List (Value × Value) → List Value
  | [] => []
  | (k, v) :: rest => k :: (v.keys ++ entryKeys rest)

end

theorem itemKeys_eq (items : List Value) : itemKeys items = items.flatMap keys := by
  induction items with
  | nil => rfl
  | cons v rest ih => rw [itemKeys, List.flatMap_cons, ih]

theorem entryKeys_eq (entries : List (Value × Value)) :
    entryKeys entries = entries.flatMap fun e => e.1 :: e.2.keys := by
  induction entries with
  | nil => rfl
  | cons e rest ih => rw [entryKeys, List.flatMap_cons, ih, List.cons_append]

theorem mem_itemKeys_iff {k : Value} {items : List Value} :
    k ∈ itemKeys items ↔ ∃ v ∈ items, k ∈ v.keys := by
  rw [itemKeys_eq, List.mem_flatMap]

theorem mem_entryKeys_iff {k : Value} {entries : List (Value × Value)} :
    k ∈ entryKeys entries ↔ ∃ e ∈ entries, k = e.1 ∨ k ∈ e.2.keys := by
  simp only [entryKeys_eq, List.mem_flatMap, List.mem_cons]

theorem hasMapping_of_mem_keys {k : Value} : ∀ v : Value, k ∈ v.keys →
    ∃ entries w, HasMapping entries v ∧ (k, w) ∈ entries
  | .sequence items, listed => by
    obtain ⟨v, member, listed⟩ := mem_itemKeys_iff.mp listed
    obtain ⟨entries, w, inside, found⟩ := hasMapping_of_mem_keys v listed
    exact ⟨entries, w, .item member inside, found⟩
  | .mapping entries, listed => by
    obtain ⟨⟨k', v⟩, member, rfl | listed⟩ := mem_entryKeys_iff.mp listed
    · exact ⟨entries, v, .here, member⟩
    · obtain ⟨others, w, inside, found⟩ := hasMapping_of_mem_keys v listed
      exact ⟨others, w, .value member inside, found⟩
  | .tagged _ v, listed => by
    obtain ⟨entries, w, inside, found⟩ := hasMapping_of_mem_keys v listed
    exact ⟨entries, w, .tagged inside, found⟩
  | .null, listed | .bool _, listed | .number _, listed | .string _, listed => by cases listed
decreasing_by
  · have smaller := List.sizeOf_lt_of_mem member
    simp only [sequence.sizeOf_spec]
    omega
  · have smaller := List.sizeOf_lt_of_mem member
    simp only [Prod.mk.sizeOf_spec, mapping.sizeOf_spec] at smaller ⊢
    omega
  · simp only [tagged.sizeOf_spec]
    omega

/-- A key with a mapping inside is no scalar. -/
theorem HasMapping.isUnsupportedKey {entries : List (Value × Value)} {k : Value} (h : HasMapping entries k) :
    k.isUnsupportedKey = true := by
  cases h <;> rfl

/-- If any mapping has a key that is not supported, there is one among the keys that are looked at. By induction on the
way to the mapping; a way through a key ends there. -/
theorem HasMapping.exists_mem_keys {entries : List (Value × Value)} {k v w : Value} (h : HasMapping entries v)
    (member : (k, w) ∈ entries) (unsupported : k.isUnsupportedKey = true) :
    ∃ j ∈ v.keys, j.isUnsupportedKey = true := by
  induction h with
  | here => exact ⟨k, mem_entryKeys_iff.mpr ⟨_, member, .inl rfl⟩, unsupported⟩
  | item listed _ ih =>
    obtain ⟨j, found, bad⟩ := ih
    exact ⟨j, mem_itemKeys_iff.mpr ⟨_, listed, found⟩, bad⟩
  | key listed inside _ =>
    exact ⟨_, mem_entryKeys_iff.mpr ⟨_, listed, .inl rfl⟩, inside.isUnsupportedKey⟩
  | value listed _ ih =>
    obtain ⟨j, found, bad⟩ := ih
    exact ⟨j, mem_entryKeys_iff.mpr ⟨_, listed, .inr found⟩, bad⟩
  | tagged _ ih => exact ih

/-! ## Tags -/

mutual

/-- The value without the tags on it and on the values in it. Keys are left as they are. -/
def untagged : Value → Value
  | .sequence items => .sequence (untaggedItems items)
  | .mapping entries => .mapping (untaggedEntries entries)
  | .tagged _ v => v.untagged
  | .null => .null
  | .bool b => .bool b
  | .number n => .number n
  | .string s => .string s

def untaggedItems : List Value → List Value
  | [] => []
  | v :: rest => v.untagged :: untaggedItems rest

def untaggedEntries : List (Value × Value) → List (Value × Value)
  | [] => []
  | (k, v) :: rest => (k, v.untagged) :: untaggedEntries rest

end

end Yaml.Value

namespace Value

open Yaml.Value

mutual

/-- The fault of a conversion is the first key in the order of the document that is not supported. By induction on the
value, in step with the conversion. -/
theorem fault?_ofYaml : ∀ v : Yaml.Value, fault? (ofYaml v) = v.keys.find? isUnsupportedKey
  | .null | .bool _ | .number _ | .string _ => rfl
  | .sequence items => by
    rw [ofYaml, fault?_map, fault?_itemsOfYaml items, keys]
  | .mapping entries => by
    rw [ofYaml, fault?_map, fault?_fieldsOfYaml entries, keys]
  | .tagged _ v => by
    rw [ofYaml, fault?_ofYaml v, keys]

theorem fault?_itemsOfYaml : ∀ items : List Yaml.Value,
    fault? (itemsOfYaml items) = (itemKeys items).find? isUnsupportedKey
  | [] => rfl
  | v :: rest => by
    have behind (w : Value) : fault? (do return w :: (← itemsOfYaml rest)) =
        (itemKeys rest).find? isUnsupportedKey := by
      rw [fault?_map, fault?_itemsOfYaml rest]
    rw [itemsOfYaml, fault?_bind behind, fault?_ofYaml v, itemKeys, List.find?_append]

theorem fault?_fieldsOfYaml : ∀ entries : List (Yaml.Value × Yaml.Value),
    fault? (fieldsOfYaml entries) = (entryKeys entries).find? isUnsupportedKey
  | [] => rfl
  | (k, v) :: rest => by
    rw [fieldsOfYaml, entryKeys, List.find?_cons, ← keyText?_isNone]
    cases k.keyText? with
    | none => rfl
    | some text =>
      have behind (w : Value) : fault? (do return (text, w) :: (← fieldsOfYaml rest)) =
          (entryKeys rest).find? isUnsupportedKey := by
        rw [fault?_map, fault?_fieldsOfYaml rest]
      dsimp only [Option.isNone_some]
      rw [fault?_bind behind, fault?_ofYaml v, List.find?_append]

end

mutual

/-- Tags on values do not count. -/
theorem ofYaml_untagged : ∀ v : Yaml.Value, ofYaml v.untagged = ofYaml v
  | .null | .bool _ | .number _ | .string _ => rfl
  | .sequence items => by
    rw [untagged, ofYaml, ofYaml, itemsOfYaml_untagged items]
  | .mapping entries => by
    rw [untagged, ofYaml, ofYaml, fieldsOfYaml_untagged entries]
  | .tagged _ v => by
    rw [untagged, ofYaml, ofYaml_untagged v]

theorem itemsOfYaml_untagged : ∀ items : List Yaml.Value,
    itemsOfYaml (untaggedItems items) = itemsOfYaml items
  | [] => rfl
  | v :: rest => by
    rw [untaggedItems, itemsOfYaml, itemsOfYaml, ofYaml_untagged v, itemsOfYaml_untagged rest]

theorem fieldsOfYaml_untagged : ∀ entries : List (Yaml.Value × Yaml.Value),
    fieldsOfYaml (untaggedEntries entries) = fieldsOfYaml entries
  | [] => rfl
  | (k, v) :: rest => by
    rw [untaggedEntries, fieldsOfYaml, fieldsOfYaml, ofYaml_untagged v, fieldsOfYaml_untagged rest]

end

/-! ## Numbers -/

theorem ofNumber_int_of_inside {i : Int} (inside : -2 ^ 63 ≤ i ∧ i < 2 ^ 63) :
    ∃ n : Int64, n.toInt = i ∧ ofNumber (.int i) = .int n := by
  have least : Int64.minValue.toInt = -2 ^ 63 := by decide
  have greatest : Int64.maxValue.toInt = 2 ^ 63 - 1 := by decide
  refine ⟨Int64.ofInt i, Int64.toInt_ofInt_of_le inside.1 inside.2, ?_⟩
  rw [ofNumber, Text.toInt64?, if_pos (by omega)]

theorem ofNumber_int_of_not_inside {i : Int} (outside : ¬ (-2 ^ 63 ≤ i ∧ i < 2 ^ 63)) :
    ofNumber (.int i) = .float (Binary64.ofInt i) := by
  have least : Int64.minValue.toInt = -2 ^ 63 := by decide
  have greatest : Int64.maxValue.toInt = 2 ^ 63 - 1 := by decide
  rw [ofNumber, Text.toInt64?, if_neg (by omega)]

/-! ## Failures -/

/-- When converting a YAML value fails, and what does not matter for it. -/
structure RefusesKeys (v : Yaml.Value) : Prop where
  /-- It fails exactly if a mapping anywhere in the value has a key that is not supported. -/
  fails : (∃ k, ofYaml v = .error k) ↔
    ∃ entries k w, HasMapping entries v ∧ (k, w) ∈ entries ∧ k.isUnsupportedKey = true
  /-- The error is the first of these keys in the order of the document. -/
  first : ∀ k, ofYaml v = .error k ↔ ∃ before after, v.keys = before ++ k :: after ∧
    k.isUnsupportedKey = true ∧ ∀ j ∈ before, j.isUnsupportedKey = false
  /-- An integer is converted to itself if it is a signed word, and to the nearest float otherwise. -/
  integer : ∀ i, v = .number (.int i) →
    if -2 ^ 63 ≤ i ∧ i < 2 ^ 63 then ∃ n : Int64, n.toInt = i ∧ ofYaml v = .ok (.int n)
    else ofYaml v = .ok (.float (Binary64.ofInt i))
  /-- A float is converted to itself. -/
  float : ∀ x, v = .number (.float x) → ofYaml v = .ok (.float x)
  /-- Tags on the value, and on values in it, change neither a result nor an error. -/
  tags : ofYaml v.untagged = ofYaml v

/-- Converting a YAML value fails exactly if a mapping in it has a key that no object can have, with the first such
key as the error. -/
theorem ofYaml_refuses_keys (v : Yaml.Value) : RefusesKeys v where
  fails := by
    constructor
    · rintro ⟨k, failed⟩
      have found := (fault?_ofYaml v).symm.trans (fault?_eq_some_iff.mpr failed)
      obtain ⟨entries, w, inside, member⟩ := hasMapping_of_mem_keys v (List.mem_of_find?_eq_some found)
      exact ⟨entries, k, w, inside, member, List.find?_some found⟩
    · rintro ⟨entries, k, w, inside, member, unsupported⟩
      obtain ⟨j, listed, bad⟩ := inside.exists_mem_keys member unsupported
      have some : (v.keys.find? isUnsupportedKey).isSome = true := List.find?_isSome.mpr ⟨j, listed, bad⟩
      obtain ⟨first, found⟩ := Option.isSome_iff_exists.mp some
      exact ⟨first, fault?_eq_some_iff.mp ((fault?_ofYaml v).trans found)⟩
  first k := by
    rw [← fault?_eq_some_iff, fault?_ofYaml, List.find?_eq_some_iff_append]
    constructor
    · rintro ⟨unsupported, before, after, split, clean⟩
      exact ⟨before, after, split, unsupported, by simpa using clean⟩
    · rintro ⟨before, after, split, unsupported, clean⟩
      exact ⟨unsupported, before, after, split, by simpa using clean⟩
  integer := by
    rintro i rfl
    split
    · next inside =>
      obtain ⟨n, same, made⟩ := ofNumber_int_of_inside inside
      exact ⟨n, same, by rw [ofYaml, made]⟩
    · next outside => rw [ofYaml, ofNumber_int_of_not_inside outside]
  float := by
    rintro x rfl
    rfl
  tags := ofYaml_untagged v

end Value

end MockSchema
