import Mathlib.Data.List.Forall2
import MockSchema.Proofs.ByteOrder
import MockSchema.Proofs.KeyOrder
import MockSchema.Proofs.Outcome
import MockSchema.Session

/-!
# Loading a file of definitions

A file is loaded as a whole or not at all. Its entries are looked at in the order of their names, and the first
one that is refused decides on the error (`generatorsOf_eq_error_iff`). Only if none is refused are the
generators put into the registry; there they override what the names stood for, and nothing else changes
(`registerInto_all_or_nothing`). Whether a definition is accepted depends on the definition alone
(`toGenerator_accepts_iff`).
-/

namespace MockSchema

/-- Two steps that do not depend on each other succeed exactly if each of them does. -/
theorem both_accept_iff {ε α β γ : Type} (x : Except ε α) (y : Except ε β) (f : α → β → γ) :
    (∃ c, (do let a ← x; let b ← y; return f a b : Except ε γ) = .ok c) ↔
      (∃ a, x = .ok a) ∧ ∃ b, y = .ok b := by
  cases x <;> cases y <;> simp [bind, Except.bind, pure, Except.pure]

/-! ## Definitions on their own -/

namespace Yaml.Value

mutual

/-- Every key of a mapping, at any depth, has a text. -/
def Keyed : Value → Prop
  | .sequence items => AllKeyed items
  | .mapping entries => EntriesKeyed entries
  | .tagged _ v => v.Keyed
  | _ => True

def AllKeyed : List Value → Prop
  | [] => True
  | v :: rest => v.Keyed ∧ AllKeyed rest

def EntriesKeyed : List (Value × Value) → Prop
  | [] => True
  | (k, v) :: rest => k.keyText? ≠ none ∧ v.Keyed ∧ EntriesKeyed rest

end

end Yaml.Value

namespace Value

mutual

/-- A YAML value is converted exactly if its keys have texts. -/
theorem ofYaml_accepts_iff : ∀ v : Yaml.Value, (∃ w, ofYaml v = .ok w) ↔ v.Keyed
  | .null | .bool _ | .number _ | .string _ => by simp [ofYaml, Yaml.Value.Keyed]
  | .sequence items => by
    rw [Yaml.Value.Keyed, ← itemsOfYaml_accepts_iff items]
    simp only [ofYaml, map_eq_ok_iff, exists_comm (α := Value), exists_and_left, exists_eq', and_true]
  | .mapping entries => by
    rw [Yaml.Value.Keyed, ← fieldsOfYaml_accepts_iff entries]
    simp only [ofYaml, map_eq_ok_iff, exists_comm (α := Value), exists_and_left, exists_eq', and_true]
  | .tagged _ v => by
    rw [Yaml.Value.Keyed, ← ofYaml_accepts_iff v, ofYaml]

theorem itemsOfYaml_accepts_iff : ∀ items : List Yaml.Value,
    (∃ ws, itemsOfYaml items = .ok ws) ↔ Yaml.Value.AllKeyed items
  | [] => by simp [itemsOfYaml, Yaml.Value.AllKeyed]
  | v :: rest => by
    rw [Yaml.Value.AllKeyed, ← ofYaml_accepts_iff v, ← itemsOfYaml_accepts_iff rest, itemsOfYaml]
    exact both_accept_iff (ofYaml v) (itemsOfYaml rest) List.cons

theorem fieldsOfYaml_accepts_iff : ∀ entries : List (Yaml.Value × Yaml.Value),
    (∃ fields, fieldsOfYaml entries = .ok fields) ↔ Yaml.Value.EntriesKeyed entries
  | [] => by simp [fieldsOfYaml, Yaml.Value.EntriesKeyed]
  | (k, v) :: rest => by
    rw [Yaml.Value.EntriesKeyed, ← ofYaml_accepts_iff v, ← fieldsOfYaml_accepts_iff rest, fieldsOfYaml]
    cases k.keyText? with
    | none => simp
    | some key =>
      simpa using both_accept_iff (ofYaml v) (fieldsOfYaml rest) fun w fields => (key, w) :: fields

end

end Value

namespace Definition

/-- What a definition must satisfy by itself. -/
def Valid : Definition → Prop
  | .intRange min max => min ≤ max
  | .floatRange min max =>
    min.isFinite = true ∧ max.isFinite = true ∧ max.lt min = false ∧ (max.sub min).isFinite = true
  | .timestampRange start stop =>
    ∃ a b, Instant.parse? start = some a ∧ Instant.parse? stop = some b ∧ a.le b = true
  | .weightedBool w => w.isProbability = true
  | .oneOf values => values ≠ [] ∧ Yaml.Value.AllKeyed values
  | .static v => v.Keyed
  | .regex pattern maxRepeat probability =>
    2 ≤ (maxRepeat.getD Pattern.Settings.initial.maxRepeat).toNat ∧
      (probability.getD Pattern.Settings.initial.optionalProbability).isProbability = true ∧
      ∃ e, Pattern.compile pattern.toList = .ok e
  | .uuid | .timestampNow | .null => True

theorem intRangeGenerator_accepts_iff (min max : Int64) :
    (∃ g, intRangeGenerator min max = .ok g) ↔ min ≤ max := by
  unfold intRangeGenerator Range.of?
  by_cases order : min ≤ max <;> simp [order]

theorem floatRangeGenerator_accepts_iff (min max : Binary64) :
    (∃ g, floatRangeGenerator min max = .ok g) ↔ min.isFinite = true ∧ max.isFinite = true ∧
      max.lt min = false ∧ (max.sub min).isFinite = true := by
  unfold floatRangeGenerator
  cases min.isFinite <;> cases max.isFinite <;> cases max.lt min <;> cases (max.sub min).isFinite <;> simp

theorem timestampRangeGenerator_accepts_iff (start stop : String) :
    (∃ g, timestampRangeGenerator start stop = .ok g) ↔
      ∃ a b, Instant.parse? start = some a ∧ Instant.parse? stop = some b ∧ a.le b = true := by
  unfold timestampRangeGenerator
  cases Instant.parse? start with
  | none => simp
  | some a =>
    cases Instant.parse? stop with
    | none => simp
    | some b => cases order : a.le b <;> simp [order]

theorem poolGenerator_accepts_iff (values : List Yaml.Value) :
    (∃ g, poolGenerator values = .ok g) ↔ values ≠ [] ∧ Yaml.Value.AllKeyed values := by
  rw [← Value.itemsOfYaml_accepts_iff, poolGenerator]
  cases values with
  | nil => simp
  | cons v rest => cases Value.itemsOfYaml (v :: rest) <;> simp

theorem staticGenerator_accepts_iff (v : Yaml.Value) : (∃ g, staticGenerator v = .ok g) ↔ v.Keyed := by
  rw [← Value.ofYaml_accepts_iff, staticGenerator]
  cases Value.ofYaml v <;> simp

theorem regexGenerator_accepts_iff (pattern : String) (maxRepeat : Option UInt32)
    (probability : Option Binary64) :
    (∃ g, regexGenerator pattern maxRepeat probability = .ok g) ↔
      (regex pattern maxRepeat probability).Valid := by
  unfold regexGenerator Pattern.Settings.of Pattern.ofText Valid
  dsimp only
  by_cases limit : 2 ≤ (maxRepeat.getD Pattern.Settings.initial.maxRepeat).toNat
  · by_cases chance :
        (probability.getD Pattern.Settings.initial.optionalProbability).isProbability = true
    · rw [dif_pos limit, dif_pos chance]
      cases Pattern.compile pattern.toList <;>
        simp [limit, chance, bind, Except.bind, pure, Except.pure]
    · rw [dif_pos limit, dif_neg chance]
      simp [chance]
  · rw [dif_neg limit]
    simp [limit]

/-- A definition makes a generator exactly if it is valid. -/
theorem toGenerator_accepts_iff (d : Definition) : (∃ g, d.toGenerator = .ok g) ↔ d.Valid := by
  cases d with
  | intRange min max => exact intRangeGenerator_accepts_iff min max
  | floatRange min max => exact floatRangeGenerator_accepts_iff min max
  | timestampRange start stop => exact timestampRangeGenerator_accepts_iff start stop
  | oneOf values => exact poolGenerator_accepts_iff values
  | static v => exact staticGenerator_accepts_iff v
  | regex pattern maxRepeat probability => exact regexGenerator_accepts_iff pattern maxRepeat probability
  | weightedBool w =>
    rw [toGenerator, Valid]
    cases w.isProbability <;> simp
  | uuid | timestampNow | null => simp [toGenerator, Valid]

end Definition

namespace DefinitionFile

/-! ## Entries -/

/-- The generator of an entry whose name can be used. -/
def Makes (e : String × Definition) (g : Generator) : Prop :=
  isUsableName e.1 = true ∧ e.2.toGenerator = .ok g

/-- What an entry must satisfy: a name that can be used and a definition that is valid by itself. -/
def Acceptable (e : String × Definition) : Prop := isUsableName e.1 = true ∧ e.2.Valid

/-- Why an entry is refused: the definition only counts where the name can be used. -/
def Offends (e : String × Definition) (fault : DefinitionFault) : Prop :=
  (isUsableName e.1 = false ∧ fault = .name) ∨
    (isUsableName e.1 = true ∧ e.2.toGenerator = .error fault)

theorem makes_some_iff (e : String × Definition) : (∃ g, Makes e g) ↔ Acceptable e := by
  simp only [Makes, Acceptable, exists_and_left, Definition.toGenerator_accepts_iff]

theorem entryGenerator_eq_ok_iff (name : String) (d : Definition) (g : Generator) :
    entryGenerator name d = .ok g ↔ Makes (name, d) g := by
  unfold entryGenerator Definition.toNamedGenerator Makes
  cases isUsableName name <;> cases d.toGenerator <;> simp

theorem entryGenerator_eq_error_iff (name : String) (d : Definition) (err : DefinitionError) :
    entryGenerator name d = .error err ↔ err.name = name ∧ Offends (name, d) err.fault := by
  obtain ⟨name', fault⟩ := err
  unfold entryGenerator Definition.toNamedGenerator Offends
  cases isUsableName name <;> cases d.toGenerator <;> simp [eq_comm]

/-! ## All entries -/

/-- Generators under the names of the entries that they are made from. -/
abbrev MakeAll (definitions : List (String × Definition)) (pairs : List (String × Generator)) : Prop :=
  List.Forall₂ (fun e p => p.1 = e.1 ∧ Makes e p.2) definitions pairs

/-- All entries succeed exactly with one generator for each. -/
theorem generatorsOf_eq_ok_iff (definitions : List (String × Definition))
    (pairs : List (String × Generator)) :
    generatorsOf definitions = .ok pairs ↔ MakeAll definitions pairs := by
  induction definitions generalizing pairs with
  | nil => cases pairs <;> simp [generatorsOf]
  | cons e rest ih =>
    obtain ⟨name, d⟩ := e
    rw [generatorsOf, bind_eq_ok_iff, MakeAll, List.forall₂_cons_left_iff]
    constructor
    · rintro ⟨g, first, made⟩
      obtain ⟨gs, others, rfl⟩ := (map_eq_ok_iff ..).mp made
      exact ⟨(name, g), gs, ⟨rfl, (entryGenerator_eq_ok_iff ..).mp first⟩, (ih gs).mp others, rfl⟩
    · rintro ⟨⟨_, g⟩, gs, ⟨rfl, first⟩, others, rfl⟩
      exact ⟨g, (entryGenerator_eq_ok_iff ..).mpr first,
        (map_eq_ok_iff ..).mpr ⟨gs, (ih gs).mpr others, rfl⟩⟩

/-- The first entry is refused, or it is not and one behind it is. -/
theorem generatorsOf_cons_eq_error_iff (e : String × Definition) (rest : List (String × Definition))
    (err : DefinitionError) :
    generatorsOf (e :: rest) = .error err ↔ (err.name = e.1 ∧ Offends e err.fault) ∨
      (Acceptable e ∧ generatorsOf rest = .error err) := by
  obtain ⟨name, d⟩ := e
  rw [generatorsOf, ← entryGenerator_eq_error_iff, ← makes_some_iff]
  simp only [← entryGenerator_eq_ok_iff]
  cases entryGenerator name d with
  | error err' => simp [bind, Except.bind]
  | ok g => cases generatorsOf rest <;> simp [bind, Except.bind, pure, Except.pure]

/-- The first entry that is refused, behind others that are not, decides on the error. By induction on the
entries in front of it. -/
theorem generatorsOf_eq_error_iff (definitions : List (String × Definition)) (err : DefinitionError) :
    generatorsOf definitions = .error err ↔ ∃ before e after, definitions = before ++ e :: after ∧
      (∀ d ∈ before, Acceptable d) ∧ err.name = e.1 ∧ Offends e err.fault := by
  induction definitions with
  | nil => simp [generatorsOf]
  | cons first rest ih =>
    rw [generatorsOf_cons_eq_error_iff, ih]
    constructor
    · rintro (offends | ⟨accepted, before, e, after, rfl, all, offends⟩)
      · exact ⟨[], first, rest, rfl, by simp, offends⟩
      · exact ⟨first :: before, e, after, rfl, List.forall_mem_cons.mpr ⟨accepted, all⟩, offends⟩
    · rintro ⟨_ | ⟨_, before⟩, e, after, split, all, offends⟩
      · cases split
        exact .inl offends
      · cases split
        obtain ⟨accepted, all⟩ := List.forall_mem_cons.mp all
        exact .inr ⟨accepted, before, e, after, rfl, all, offends⟩

theorem generatorsOf_accepts_iff (definitions : List (String × Definition)) :
    (∃ pairs, generatorsOf definitions = .ok pairs) ↔ ∀ e ∈ definitions, Acceptable e := by
  induction definitions with
  | nil => simp [generatorsOf]
  | cons e rest ih =>
    obtain ⟨name, d⟩ := e
    rw [List.forall_mem_cons, ← ih, ← makes_some_iff]
    simp only [← entryGenerator_eq_ok_iff]
    exact both_accept_iff (entryGenerator name d) (generatorsOf rest) fun g gs => (name, g) :: gs

/-! ## Files -/

/-- Names ascend in the order of their bytes, so none is defined twice. -/
def Ascending (file : DefinitionFile) : Prop :=
  file.definitions.Pairwise fun a b => Text.bytes a.1 < Text.bytes b.1

/-- A file that is made from definitions in any order is ascending. -/
theorem ofPairs_ascending (pairs : List (String × Definition)) : (ofPairs pairs).Ascending := by
  have sorted : ((Entries.ofPairs pairs).mergeSort fun a b => decide (a.1 ≤ b.1)).Pairwise
      fun a b => decide (a.1 ≤ b.1) = true := by
    refine List.pairwise_mergeSort (fun a b c first second => ?_) (fun a b => ?_) _
    · simp only [decide_eq_true_eq] at first second ⊢
      exact String.le_trans first second
    · simpa using String.le_total a.1 b.1
  have distinct : (Entries.ofPairs pairs).Pairwise fun a b => a.1 ≠ b.1 :=
    List.pairwise_map.mp (Entries.nodup_keys_ofPairs pairs)
  have distinct := (List.mergeSort_perm (Entries.ofPairs pairs)
    fun a b => decide (a.1 ≤ b.1)).symm.pairwise distinct fun different => Ne.symm different
  refine sorted.imp₂ (fun a b order different => ?_) distinct
  rw [← Text.lt_iff_bytes_lt]
  by_contra other
  exact different (String.le_antisymm (of_decide_eq_true order) (String.not_lt.mp other))

/-- Whatever is read from a YAML text is ascending. -/
theorem ofYaml?_ascending {text : String} {file : DefinitionFile} (read : ofYaml? text = some file) :
    file.Ascending := by
  obtain ⟨doc, -, read⟩ := Option.bind_eq_some_iff.mp read
  split at read
  · cases read
    exact .nil
  · obtain ⟨⟨pairs, _⟩, -, made⟩ := Option.bind_eq_some_iff.mp read
    cases made
    exact ofPairs_ascending pairs

/-! ## Registries -/

theorem Ascending.nodup {file : DefinitionFile} (ascending : file.Ascending) :
    (file.definitions.map Prod.fst).Nodup := by
  refine List.pairwise_map.mpr (ascending.imp fun {a b} less same => ?_)
  rw [same] at less
  exact List.lt_irrefl _ less

theorem MakeAll.names {definitions : List (String × Definition)} {pairs : List (String × Generator)}
    (made : MakeAll definitions pairs) : pairs.map Prod.fst = definitions.map Prod.fst := by
  induction made with
  | nil => rfl
  | cons first _ ih => rw [List.map_cons, List.map_cons, first.1, ih]

theorem MakeAll.exists_of_mem {definitions : List (String × Definition)}
    {pairs : List (String × Generator)} (made : MakeAll definitions pairs) {e : String × Definition}
    (member : e ∈ definitions) : ∃ g, Makes e g ∧ (e.1, g) ∈ pairs := by
  induction made with
  | nil => cases member
  | @cons e' p rest ps first _ ih =>
    rcases List.mem_cons.mp member with rfl | behind
    · exact ⟨p.2, first.2, List.mem_cons.mpr (.inl (by rw [← first.1]))⟩
    · obtain ⟨g, makes, listed⟩ := ih behind
      exact ⟨g, makes, List.mem_cons_of_mem p listed⟩

/-- Loading succeeds with one generator for each entry, and these are registered in turn. -/
theorem registerInto_eq_ok_iff {file : DefinitionFile} (ascending : file.Ascending)
    (r r' : Registry Generator) (count : Nat) :
    file.registerInto r = .ok (r', count) ↔ ∃ pairs, MakeAll file.definitions pairs ∧
      r' = ⟨Entries.setAll r.entries pairs⟩ ∧ count = pairs.length := by
  simp only [← generatorsOf_eq_ok_iff]
  unfold registerInto toRegistry
  cases made : generatorsOf file.definitions with
  | error err => simp [bind, Except.bind]
  | ok pairs =>
    have nodup : (pairs.map Prod.fst).Nodup := by
      rw [((generatorsOf_eq_ok_iff ..).mp made).names]
      exact ascending.nodup
    simp [bind, Except.bind, pure, Except.pure, Registry.merge, Registry.size, Registry.ofPairs,
      Entries.ofPairs_of_nodup nodup, eq_comm]

theorem registerInto_eq_error_iff (file : DefinitionFile) (r : Registry Generator) (err : DefinitionError) :
    file.registerInto r = .error err ↔ generatorsOf file.definitions = .error err := by
  unfold registerInto toRegistry
  cases generatorsOf file.definitions <;> simp [bind, Except.bind, pure, Except.pure]

theorem registerInto_accepts_iff (file : DefinitionFile) (r : Registry Generator) :
    (∃ r' count, file.registerInto r = .ok (r', count)) ↔ ∀ e ∈ file.definitions, Acceptable e := by
  rw [← generatorsOf_accepts_iff]
  unfold registerInto toRegistry
  cases generatorsOf file.definitions <;> simp [bind, Except.bind, pure, Except.pure]

/-- A file that is loaded binds its names to its definitions. -/
theorem get?_of_registerInto {file : DefinitionFile} (ascending : file.Ascending)
    {r r' : Registry Generator} {count : Nat} (loaded : file.registerInto r = .ok (r', count))
    {e : String × Definition} (member : e ∈ file.definitions) :
    ∃ g, Makes e g ∧ r'.get? e.1 = some g := by
  obtain ⟨pairs, made, rfl, -⟩ := (registerInto_eq_ok_iff ascending ..).mp loaded
  obtain ⟨g, makes, listed⟩ := made.exists_of_mem member
  exact ⟨g, makes, Entries.get?_setAll_of_mem (made.names ▸ ascending.nodup) listed r.entries⟩

/-- What loading a file into a registry comes to: the whole file, or nothing. -/
structure LoadsWhole (file : DefinitionFile) (r : Registry Generator) : Prop where
  /-- The file is loaded exactly if every name can be used and every definition is valid by itself. -/
  accepted : (∃ r' count, file.registerInto r = .ok (r', count)) ↔
    ∀ e ∈ file.definitions, isUsableName e.1 = true ∧ e.2.Valid
  /-- Then the count is that of the definitions, every name of the file has the generator of its definition, and
  every other name has what it had before. -/
  bound : ∀ r' count, file.registerInto r = .ok (r', count) →
    count = file.definitions.length ∧
    (∀ e ∈ file.definitions, ∃ g, e.2.toGenerator = .ok g ∧ r'.get? e.1 = some g) ∧
    ∀ name ∉ file.definitions.map Prod.fst, r'.get? name = r.get? name
  /-- Otherwise the error is that of the first entry, in the order of names, that offends: by its name, or else
  by its definition. -/
  refused : ∀ err, file.registerInto r = .error err ↔
    ∃ before e after, file.definitions = before ++ e :: after ∧
      (∀ d ∈ before, isUsableName d.1 = true ∧ d.2.Valid) ∧ err.name = e.1 ∧ Offends e err.fault
  /-- In a session the registry is replaced where the file is loaded, and nothing is changed where it is
  refused. -/
  inPlace : ∀ {σ : Type} [RandomSource σ] (s : Session σ), s.context.registry = r →
    (∀ r' count, file.registerInto r = .ok (r', count) →
      s.step (.registerFile file) = (.done, s.withRegistry r')) ∧
    ∀ err, file.registerInto r = .error err → s.step (.registerFile file) = (.refused err, s)

/-- A file is loaded as a whole or not at all, whatever the registry holds. -/
theorem registerInto_all_or_nothing {file : DefinitionFile} (ascending : file.Ascending)
    (r : Registry Generator) : file.LoadsWhole r where
  accepted := registerInto_accepts_iff file r
  bound r' count loaded := by
    refine ⟨?_, fun e member => ?_, fun name absent => ?_⟩
    · obtain ⟨pairs, made, -, rfl⟩ := (registerInto_eq_ok_iff ascending ..).mp loaded
      exact made.length_eq.symm
    · obtain ⟨g, makes, found⟩ := get?_of_registerInto ascending loaded member
      exact ⟨g, makes.2, found⟩
    · obtain ⟨pairs, made, rfl, -⟩ := (registerInto_eq_ok_iff ascending ..).mp loaded
      exact Entries.get?_setAll_of_notMem (made.names ▸ absent) r.entries
  refused err := (registerInto_eq_error_iff file r err).trans (generatorsOf_eq_error_iff ..)
  inPlace s same := by
    subst same
    constructor
    · intro r' count loaded
      simp only [Session.step, loaded]
    · intro err refused
      simp only [Session.step, refused]

/-- A name that can be used with a definition that cannot comes before a name that cannot be used; the built-in
name between them is not overridden. -/
theorem registerInto_all_or_nothing_mixed :
    let file : DefinitionFile :=
      ⟨[("level", .intRange 3 2), ("name", .static (.string "fixed")), ("null", .null)]⟩
    file.Ascending ∧ file.registerInto Generator.builtins = .error ⟨"level", .intOrder 3 2⟩ := by
  have ascending : DefinitionFile.Ascending
      ⟨[("level", .intRange 3 2), ("name", .static (.string "fixed")), ("null", .null)]⟩ := by
    simp only [Ascending, ← Text.lt_iff_bytes_lt]
    decide
  refine ⟨ascending, ((registerInto_all_or_nothing ascending _).refused _).mpr ?_⟩
  exact ⟨[], _, _, rfl, by simp, rfl, .inr ⟨by decide, rfl⟩⟩

end DefinitionFile

end MockSchema
