import MockSchema.Proofs.KeyOrder
import MockSchema.Proofs.Outcome
import MockSchema.Value.OfYaml

/-!
# Entries of mappings that become objects

Keys of a mapping are different values, but an object is keyed by texts, and a number or a truth value has the
text of some string too. Where two keys of a mapping have one text, one entry is lost: the text keeps the place
of its first key and takes the value of its last one (`Value.ofYaml_mapping`). `Value.Keeps` says of a value
that nothing is lost, at any depth. That holds exactly where no two keys of a mapping have the same text
(`Value.ofYaml_keeps_entries`).
-/

namespace MockSchema

namespace Yaml.Value

/-- The texts of the keys that have one. -/
def keyTexts (entries : List (Value × Value)) : List String := entries.filterMap fun e => e.1.keyText?

mutual

/-- No two keys of a mapping, at any depth, have the same text. -/
def Apart : Value → Prop
  | .sequence items => AllApart items
  | .mapping entries => (keyTexts entries).Nodup ∧ EntriesApart entries
  | .tagged _ v => v.Apart
  | _ => True

def AllApart : List Value → Prop
  | [] => True
  | v :: rest => v.Apart ∧ AllApart rest

def EntriesApart : List (Value × Value) → Prop
  | [] => True
  | (_, v) :: rest => v.Apart ∧ EntriesApart rest

end

end Yaml.Value

namespace Value

open Yaml.Value (keyTexts)

mutual

/-- The value holds all of a YAML value: a list its items and an object the entries of its mapping, one by one
and in order, each with the text of its key. -/
def Keeps : Yaml.Value → Value → Prop
  | .null, w => w = .null
  | .bool b, w => w = .bool b
  | .number n, w => w = ofNumber n
  | .string s, w => w = .string s
  | .sequence items, w => ∃ ws, w = .array ws ∧ KeepsItems items ws
  | .mapping entries, w => ∃ fields, w = .object fields ∧ KeepsEntries entries fields
  | .tagged _ v, w => Keeps v w

def KeepsItems : List Yaml.Value → List Value → Prop
  | [], ws => ws = []
  | v :: rest, ws => ∃ w others, ws = w :: others ∧ Keeps v w ∧ KeepsItems rest others

def KeepsEntries : List (Yaml.Value × Yaml.Value) → List (String × Value) → Prop
  | [], fields => fields = []
  | (k, v) :: rest, fields => ∃ text w others, fields = (text, w) :: others ∧ k.keyText? = some text ∧
      Keeps v w ∧ KeepsEntries rest others

end

/-! ## One mapping -/

/-- The first entry of a mapping and the other ones, each converted. -/
theorem fieldsOfYaml_cons {k v : Yaml.Value} {rest : List (Yaml.Value × Yaml.Value)}
    {pairs : List (String × Value)} (made : fieldsOfYaml ((k, v) :: rest) = .ok pairs) :
    ∃ text w others, pairs = (text, w) :: others ∧ k.keyText? = some text ∧ ofYaml v = .ok w ∧
      fieldsOfYaml rest = .ok others := by
  unfold fieldsOfYaml at made
  split at made
  · cases made
  · next text named =>
    obtain ⟨w, first, made⟩ := (bind_eq_ok_iff ..).mp made
    obtain ⟨others, behind, rfl⟩ := (map_eq_ok_iff ..).mp made
    exact ⟨text, w, others, rfl, named, first, behind⟩

theorem keyTexts_cons {k : Yaml.Value} {text : String} (named : k.keyText? = some text) (v : Yaml.Value)
    (rest : List (Yaml.Value × Yaml.Value)) : keyTexts ((k, v) :: rest) = text :: keyTexts rest :=
  List.filterMap_cons_some named

theorem fieldsOfYaml_texts {entries : List (Yaml.Value × Yaml.Value)} {pairs : List (String × Value)}
    (made : fieldsOfYaml entries = .ok pairs) : pairs.map Prod.fst = keyTexts entries := by
  induction entries generalizing pairs with
  | nil =>
    cases made
    rfl
  | cons e rest ih =>
    obtain ⟨text, w, others, rfl, named, -, behind⟩ := fieldsOfYaml_cons made
    rw [keyTexts_cons named, List.map_cons, ih behind]

theorem KeepsEntries.texts {entries : List (Yaml.Value × Yaml.Value)} {fields : List (String × Value)}
    (keeps : KeepsEntries entries fields) : fields.map Prod.fst = keyTexts entries := by
  induction entries generalizing fields with
  | nil =>
    cases keeps
    rfl
  | cons e rest ih =>
    obtain ⟨text, w, others, rfl, named, -, behind⟩ := keeps
    rw [keyTexts_cons named, List.map_cons, ih behind]

/-- Fields for entries in front of others, for an entry, and for the entries behind it. -/
theorem fieldsOfYaml_append {k v : Yaml.Value} {before after : List (Yaml.Value × Yaml.Value)}
    {pairs : List (String × Value)} (made : fieldsOfYaml (before ++ (k, v) :: after) = .ok pairs) :
    ∃ front text w back, pairs = front ++ (text, w) :: back ∧ k.keyText? = some text ∧ ofYaml v = .ok w ∧
      fieldsOfYaml after = .ok back := by
  induction before generalizing pairs with
  | nil =>
    obtain ⟨text, w, others, rfl, named, first, behind⟩ := fieldsOfYaml_cons made
    exact ⟨[], text, w, others, rfl, named, first, behind⟩
  | cons e rest ih =>
    obtain ⟨name, x, others, rfl, -, -, behind⟩ := fieldsOfYaml_cons made
    obtain ⟨front, text, w, back, rfl, named, first, behind⟩ := ih behind
    exact ⟨(name, x) :: front, text, w, back, rfl, named, first, behind⟩

/-- What becomes of the entries of a mapping: the texts of its keys in the order in which they first appear, each
with the value of the last entry that has it. -/
structure Gathers (entries : List (Yaml.Value × Yaml.Value)) (fields : Entries Value) : Prop where
  keys : Entries.keys fields = (keyTexts entries).eraseDups
  last : ∀ before k v after text, entries = before ++ (k, v) :: after → k.keyText? = some text →
    text ∉ keyTexts after → ∃ w, ofYaml v = .ok w ∧ Entries.get? text fields = some w

theorem ofYaml_mapping {entries : List (Yaml.Value × Yaml.Value)} {w : Value}
    (made : ofYaml (.mapping entries) = .ok w) : ∃ fields, w = .object fields ∧ Gathers entries fields := by
  obtain ⟨pairs, each, rfl⟩ := (map_eq_ok_iff ..).mp made
  refine ⟨Entries.ofPairs pairs, rfl, ?_, ?_⟩
  · rw [Entries.keys_ofPairs, fieldsOfYaml_texts each]
  · rintro before k v after text rfl named absent
    obtain ⟨front, name, w, back, rfl, named', first, behind⟩ := fieldsOfYaml_append each
    cases named.symm.trans named'
    rw [← fieldsOfYaml_texts behind] at absent
    exact ⟨w, first, Entries.get?_ofPairs_last absent front w⟩

/-! ## Mappings at any depth -/

mutual

/-- By induction on the YAML value. An object has no text twice, so it cannot hold all entries of a mapping that
has; and where no text appears twice, nothing is set again. -/
theorem keeps_iff : ∀ (v : Yaml.Value) {w : Value}, ofYaml v = .ok w → (Keeps v w ↔ v.Apart)
  | .null, _, made | .bool _, _, made | .number _, _, made | .string _, _, made => by
    cases made
    simp [Keeps, Yaml.Value.Apart]
  | .sequence items, _, made => by
    obtain ⟨ws, each, rfl⟩ := (map_eq_ok_iff ..).mp made
    simp [Keeps, Yaml.Value.Apart, keepsItems_iff items each]
  | .mapping entries, _, made => by
    obtain ⟨pairs, each, rfl⟩ := (map_eq_ok_iff ..).mp made
    have texts := fieldsOfYaml_texts each
    rw [Yaml.Value.Apart, ← keepsEntries_iff entries each]
    constructor
    · rintro ⟨fields, same, keeps⟩
      cases same
      have nodup : (keyTexts entries).Nodup := keeps.texts ▸ Entries.nodup_keys_ofPairs pairs
      rw [Entries.ofPairs_of_nodup (texts ▸ nodup)] at keeps
      exact ⟨nodup, keeps⟩
    · rintro ⟨nodup, keeps⟩
      exact ⟨pairs, by rw [Entries.ofPairs_of_nodup (texts ▸ nodup)], keeps⟩
  | .tagged _ v, _, made => by
    rw [Keeps, Yaml.Value.Apart]
    exact keeps_iff v made

theorem keepsItems_iff : ∀ (items : List Yaml.Value) {ws : List Value}, itemsOfYaml items = .ok ws →
    (KeepsItems items ws ↔ Yaml.Value.AllApart items)
  | [], _, made => by
    cases made
    simp [KeepsItems, Yaml.Value.AllApart]
  | v :: rest, _, made => by
    obtain ⟨w, first, made⟩ := (bind_eq_ok_iff ..).mp made
    obtain ⟨others, behind, rfl⟩ := (map_eq_ok_iff ..).mp made
    simp [KeepsItems, Yaml.Value.AllApart, keeps_iff v first, keepsItems_iff rest behind]

theorem keepsEntries_iff : ∀ (entries : List (Yaml.Value × Yaml.Value)) {pairs : List (String × Value)},
    fieldsOfYaml entries = .ok pairs → (KeepsEntries entries pairs ↔ Yaml.Value.EntriesApart entries)
  | [], _, made => by
    cases made
    simp [KeepsEntries, Yaml.Value.EntriesApart]
  | (k, v) :: rest, _, made => by
    obtain ⟨text, w, others, rfl, named, first, behind⟩ := fieldsOfYaml_cons made
    simp [KeepsEntries, Yaml.Value.EntriesApart, named, keeps_iff v first, keepsEntries_iff rest behind]

end

/-- A YAML value that is converted is kept with all of its entries exactly if no two keys of one mapping in it
have the same text. Otherwise entries are merged: an object has the texts of the keys in the order in which they
first appear, and the value of the last entry for each. -/
theorem ofYaml_keeps_entries {v : Yaml.Value} {w : Value} (made : ofYaml v = .ok w) :
    (Keeps v w ↔ v.Apart) ∧
      ∀ entries, v = .mapping entries → ∃ fields, w = .object fields ∧ Gathers entries fields := by
  refine ⟨keeps_iff v made, ?_⟩
  rintro entries rfl
  exact ofYaml_mapping made

/-- A number and its text as keys of one mapping. The keys are different, and still two entries become one. -/
theorem ofYaml_keeps_entries_number :
    let v := Yaml.Value.mapping [(.number (.int 1), .string "a"), (.string "x", .string "b"),
      (.string "1", .string "c")]
    let w := Value.object [("1", .string "c"), ("x", .string "b")]
    v.isProper = true ∧ ofYaml v = .ok w ∧ ¬ Keeps v w := by
  intro v w
  have made : ofYaml v = .ok w := by rfl
  refine ⟨by decide, made, fun keeps => ?_⟩
  have apart := (ofYaml_keeps_entries made).1.mp keeps
  exact absurd apart.1 (by decide)

end Value

end MockSchema
