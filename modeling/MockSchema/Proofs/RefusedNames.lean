import MockSchema.Encode.Xml
import MockSchema.Proofs.CharMembership
import MockSchema.Proofs.Outcome

/-!
# Keys that are no element names

Writing a value as XML fails at the first key that is no element name, in the order in which the keys stand in the
value (`Xml.fault?_write`). The writer looks at a name on entry to every element, so it also looks at the keys of
empty lists, and once more at the name of a list for each item; neither changes which key is the first one. How the
text is laid out does not matter, for lines are laid out only after all of them are there
(`Xml.write_refuses_names`).
-/

namespace MockSchema

namespace Value

/-- A key of an object anywhere in a value: in an item of a list, or in a value of another object. -/
inductive HasKey (key : String) : Value → Prop
  | here {v fields} (member : (key, v) ∈ fields) : HasKey key (.object fields)
  | item {v items} (member : v ∈ items) (inside : HasKey key v) : HasKey key (.array items)
  | value {k v fields} (member : (k, v) ∈ fields) (inside : HasKey key v) : HasKey key (.object fields)

/-! ## The order of keys -/

mutual

/-- The keys of the objects in a value in the order in which they stand there, each in front of those in its
value. -/
def objectKeys : Value → List String
  | .array items => keysOfItems items
  | .object fields => keysOfFields fields
  | .null | .bool _ | .int _ | .float _ | .string _ => []

def keysOfItems : List Value → List String
  | [] => []
  | v :: rest => v.objectKeys ++ keysOfItems rest

def keysOfFields : List (String × Value) → List String
  | [] => []
  | (key, v) :: rest => key :: (v.objectKeys ++ keysOfFields rest)

end

theorem keysOfItems_eq (items : List Value) : keysOfItems items = items.flatMap objectKeys := by
  induction items with
  | nil => rfl
  | cons v rest ih => rw [keysOfItems, List.flatMap_cons, ih]

theorem keysOfFields_eq (fields : List (String × Value)) :
    keysOfFields fields = fields.flatMap fun field => field.1 :: field.2.objectKeys := by
  induction fields with
  | nil => rfl
  | cons field rest ih => rw [keysOfFields, List.flatMap_cons, ih, List.cons_append]

theorem mem_keysOfFields_iff {key : String} {fields : List (String × Value)} :
    key ∈ keysOfFields fields ↔ ∃ field ∈ fields, key = field.1 ∨ key ∈ field.2.objectKeys := by
  simp only [keysOfFields_eq, List.mem_flatMap, List.mem_cons]

theorem hasKey_of_mem_objectKeys {key : String} : ∀ v : Value, key ∈ v.objectKeys → HasKey key v
  | .array items, listed => by
    rw [objectKeys, keysOfItems_eq] at listed
    obtain ⟨v, member, inside⟩ := List.mem_flatMap.mp listed
    exact .item member (hasKey_of_mem_objectKeys v inside)
  | .object fields, listed => by
    obtain ⟨⟨k, v⟩, member, rfl | inside⟩ := mem_keysOfFields_iff.mp listed
    · exact .here member
    · exact .value member (hasKey_of_mem_objectKeys v inside)
  | .null, listed | .bool _, listed | .int _, listed | .float _, listed | .string _, listed => by cases listed
decreasing_by
  all_goals
    have smaller := List.sizeOf_lt_of_mem member
    simp only [Prod.mk.sizeOf_spec, object.sizeOf_spec, array.sizeOf_spec] at smaller ⊢
    omega

theorem mem_objectKeys_iff {key : String} {v : Value} : key ∈ v.objectKeys ↔ HasKey key v := by
  refine ⟨hasKey_of_mem_objectKeys v, fun has => ?_⟩
  induction has with
  | here member => exact mem_keysOfFields_iff.mpr ⟨_, member, .inl rfl⟩
  | item member _ ih =>
    rw [objectKeys, keysOfItems_eq]
    exact List.mem_flatMap.mpr ⟨_, member, ih⟩
  | value member _ ih => exact mem_keysOfFields_iff.mpr ⟨_, member, .inr ih⟩

end Value

namespace Xml

/-! ## The first name that is refused -/

/-- What the writer fails with at a name. -/
def nameFault (name : String) : Option NameError := if isName name.toList then none else some ⟨name⟩

theorem fault?_checkName (name : String) : fault? (checkName name) = nameFault name := by
  unfold checkName nameFault
  split <;> rfl

/-- No element is written under a name that is none. -/
theorem element_eq_error {name : String} {e : NameError} (refused : nameFault name = some e) (depth : Nat)
    (v : Value) : element name depth v = .error e := by
  have failed : checkName name = .error e := fault?_eq_some_iff.mp ((fault?_checkName name).trans refused)
  rw [element.eq_def]
  split <;> rw [failed] <;> rfl

mutual

/-- Behind its own name an element fails with the first key in its value that is refused. By induction on the value,
in step with the writer. -/
theorem fault?_element {name : String} (named : nameFault name = none) (depth : Nat) : ∀ v : Value,
    fault? (element name depth v) = v.objectKeys.findSome? nameFault
  | .array items => by
    rw [element, fault?_bind fun _ => fault?_elements named depth items, fault?_checkName, named, Value.objectKeys,
      Option.none_or]
  | .object (field :: fields) => by
    have behind (u : Unit) : fault? (do
        let inner ← members (depth + 1) (field :: fields)
        return ⟨depth, openTag name.toList⟩ :: inner ++ [⟨depth, closeTag name.toList⟩]) =
          (Value.keysOfFields (field :: fields)).findSome? nameFault := by
      rw [fault?_map, fault?_members (depth + 1) (field :: fields)]
    rw [element, fault?_bind behind, fault?_checkName, named, Value.objectKeys, Option.none_or]
    simp
  | .object [] | .null | .bool _ | .int _ | .float _ | .string _ => by
    rw [element, fault?_map, fault?_checkName, named]
    rfl

/-- The name of a list is looked at again for each item, but it is not refused. -/
theorem fault?_elements {name : String} (named : nameFault name = none) (depth : Nat) : ∀ items : List Value,
    fault? (elements name depth items) = (Value.keysOfItems items).findSome? nameFault
  | [] => rfl
  | v :: rest => by
    have behind (a : List Line) : fault? (do return a ++ (← elements name depth rest)) =
        (Value.keysOfItems rest).findSome? nameFault := by
      rw [fault?_map, fault?_elements named depth rest]
    rw [elements, fault?_bind behind, fault?_element named depth v, Value.keysOfItems, List.findSome?_append]

theorem fault?_members (depth : Nat) : ∀ fields : List (String × Value),
    fault? (members depth fields) = (Value.keysOfFields fields).findSome? nameFault
  | [] => rfl
  | (key, v) :: rest => by
    have behind (a : List Line) : fault? (do return a ++ (← members depth rest)) =
        (Value.keysOfFields rest).findSome? nameFault := by
      rw [fault?_map, fault?_members depth rest]
    rw [members, fault?_bind behind, Value.keysOfFields, List.findSome?_cons]
    cases named : nameFault key with
    | some e =>
      rw [element_eq_error named]
      rfl
    | none =>
      dsimp only
      rw [fault?_element named depth v, List.findSome?_append]

end

theorem isName_rootName : isName rootName.toList = true := by
  simp only [isName, rootName, String.toList, Unicode.isAlphabetic_eq, Unicode.isAlphanumeric_eq]
  decide +kernel

theorem fault?_lines (v : Value) : fault? (lines v) = v.objectKeys.findSome? nameFault := by
  cases v with
  | object fields => exact fault?_members 0 fields
  | _ => exact fault?_element (if_pos isName_rootName) 0 _

/-- Writing fails with the first key that is refused, whichever way the lines are joined. -/
theorem fault?_write (pretty : Bool) (v : Value) : fault? (write pretty v) = v.objectKeys.findSome? nameFault := by
  rw [write, fault?_map, chars, fault?_map, fault?_lines]

theorem nameFault_eq_some_iff {name : String} {e : NameError} :
    nameFault name = some e ↔ isName name.toList = false ∧ e = ⟨name⟩ := by
  unfold nameFault
  cases isName name.toList <;> simp [eq_comm]

theorem nameFault_eq_none_iff {name : String} : nameFault name = none ↔ isName name.toList = true := by
  unfold nameFault
  cases isName name.toList <;> simp

/-- When writing a value as XML fails, with and without an indentation. -/
structure RefusesNames (v : Value) (pretty : Bool) : Prop where
  /-- It fails exactly if a key anywhere in the value is no element name. -/
  fails : (∃ e, write pretty v = .error e) ↔ ∃ key, Value.HasKey key v ∧ isName key.toList = false
  /-- The error names the first of these keys in the order in which the keys stand in the value. -/
  first : ∀ e, write pretty v = .error e ↔ ∃ before after, v.objectKeys = before ++ e.name :: after ∧
    isName e.name.toList = false ∧ ∀ key ∈ before, isName key.toList = true
  /-- The other layout has the same outcome. -/
  same : fault? (write pretty v) = fault? (write (!pretty) v)

/-- Writing a value as XML fails exactly if a key in it is no element name, with the first such key as the error. -/
theorem write_refuses_names (v : Value) (pretty : Bool) : RefusesNames v pretty where
  fails := by
    simp only [← fault?_eq_some_iff, fault?_write]
    constructor
    · rintro ⟨e, found⟩
      obtain ⟨key, listed, refused⟩ := List.exists_of_findSome?_eq_some found
      exact ⟨key, Value.mem_objectKeys_iff.mp listed, (nameFault_eq_some_iff.mp refused).1⟩
    · rintro ⟨key, has, refused⟩
      have some : (v.objectKeys.findSome? nameFault).isSome = true := List.findSome?_isSome_iff.mpr
        ⟨key, Value.mem_objectKeys_iff.mpr has, by rw [nameFault_eq_some_iff.mpr ⟨refused, rfl⟩]; rfl⟩
      exact Option.isSome_iff_exists.mp some
  first e := by
    rw [← fault?_eq_some_iff, fault?_write, List.findSome?_eq_some_iff]
    constructor
    · rintro ⟨before, key, after, split, refused, clean⟩
      obtain ⟨unnamed, rfl⟩ := nameFault_eq_some_iff.mp refused
      exact ⟨before, after, split, unnamed, fun key listed => nameFault_eq_none_iff.mp (clean key listed)⟩
    · rintro ⟨before, after, split, unnamed, clean⟩
      exact ⟨before, e.name, after, split, nameFault_eq_some_iff.mpr ⟨unnamed, rfl⟩,
        fun key listed => nameFault_eq_none_iff.mpr (clean key listed)⟩
  same := by rw [fault?_write, fault?_write]

end Xml

end MockSchema
