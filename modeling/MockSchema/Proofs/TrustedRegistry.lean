import MockSchema.Generator.Definition
import MockSchema.Proofs.InstantBounds
import MockSchema.Proofs.KeyOrder
import MockSchema.Proofs.PatternForm

/-!
# Trusted registries

A registry is trusted if it was made from the built-in generators by registering files of definitions. Every
generator in it is valid: its interval has members, whatever the file says, since a definition with an empty
interval is refused. What a definition of each kind makes is said once (`intRangeGenerator_eq_ok` and the lemmas
beside it).
-/

namespace MockSchema

/-- Nothing but the counts of a pattern can keep the generator from a value. -/
def Generator.Valid : Generator → Prop
  | .failing _ => False
  | .timestampBetween start stop => start.Fits ∧ stop.Fits
  | .float min max => min.le max = true ∧ (max.sub min).isFinite = true
  | .boolean p => p.isProbability = true
  | .oneOf pool => pool ≠ []
  | .pattern p => p.expr.Formed
  | _ => True

/-- The registries that come from the built-in one by registering files. -/
inductive Registry.Trusted : Registry Generator → Prop
  | builtins : Trusted Generator.builtins
  | registered {r r' : Registry Generator} {file : DefinitionFile} {count : Nat} (before : Trusted r)
      (accepted : file.registerInto r = .ok (r', count)) : Trusted r'

namespace Binary64

theorem isNaN_of_isFinite {x : Binary64} (finite : x.isFinite = true) : x.isNaN = false := by
  unfold isFinite at finite
  unfold isNaN
  have below := of_decide_eq_true finite
  simp only [Bool.and_eq_false_iff, beq_eq_false_iff_ne]
  exact .inl (by omega)

theorem le_of_not_lt {x y : Binary64} (hx : x.isFinite = true) (hy : y.isFinite = true)
    (order : ¬ y.lt x = true) : x.le y = true := by
  unfold lt at order
  unfold le
  simp only [isNaN_of_isFinite hx, isNaN_of_isFinite hy, Bool.not_false, Bool.true_and,
    decide_eq_true_eq] at order ⊢
  omega

end Binary64

/-- A pool holds what its entries are converted to, one for each. -/
theorem Value.itemsOfYaml_members {values : List Yaml.Value} {pool : List Value}
    (read : itemsOfYaml values = .ok pool) :
    pool.length = values.length ∧ ∀ v, v ∈ pool ↔ ∃ entry ∈ values, ofYaml entry = .ok v := by
  induction values generalizing pool with
  | nil =>
    cases read
    simp
  | cons entry rest ih =>
    obtain ⟨w, first, behind⟩ := (bind_eq_ok_iff ..).mp read
    obtain ⟨ws, others, rfl⟩ := (map_eq_ok_iff ..).mp behind
    obtain ⟨length, members⟩ := ih others
    simp [length, members, first, eq_comm]

namespace Definition

/-! ## What is made from a definition -/

theorem intRangeGenerator_eq_ok {min max : Int64} {g : Generator} (made : intRangeGenerator min max = .ok g) :
    ∃ order : min ≤ max, g = .integer ⟨min, max, order⟩ := by
  unfold intRangeGenerator Range.of? at made
  split at made
  · next r found =>
    obtain ⟨order, same⟩ := Option.dite_none_right_eq_some.mp found
    cases same
    cases made
    exact ⟨order, rfl⟩
  · cases made

/-- A pool that is accepted is not empty. -/
theorem poolGenerator_eq_ok {values : List Yaml.Value} {g : Generator} (made : poolGenerator values = .ok g) :
    ∃ pool, Value.itemsOfYaml values = .ok pool ∧ pool ≠ [] ∧ g = .oneOf pool := by
  unfold poolGenerator at made
  split at made
  · cases made
  · next some =>
    split at made
    · next pool read =>
      cases made
      refine ⟨pool, read, ?_, rfl⟩
      rintro rfl
      exact some (List.isEmpty_iff_length_eq_zero.mpr (Value.itemsOfYaml_members read).1.symm)
    · cases made

theorem staticGenerator_eq_ok {value : Yaml.Value} {g : Generator} (made : staticGenerator value = .ok g) :
    ∃ v, Value.ofYaml value = .ok v ∧ g = .constant v := by
  unfold staticGenerator at made
  split at made
  · next v read =>
    cases made
    exact ⟨v, read, rfl⟩
  · cases made

theorem floatRangeGenerator_valid {min max : Binary64} {g : Generator}
    (made : floatRangeGenerator min max = .ok g) : g.Valid := by
  unfold floatRangeGenerator at made
  split at made
  · cases made
  · next finite =>
    split at made
    · cases made
    · next order =>
      split at made
      · cases made
      · next narrow =>
        cases made
        simp only [Bool.or_eq_true, Bool.not_eq_true', not_or, Bool.not_eq_false] at finite narrow
        exact ⟨Binary64.le_of_not_lt finite.1 finite.2 order, narrow⟩

/-- A range that is accepted has two instants for its texts, and they are in order. -/
theorem timestampRangeGenerator_eq_ok {start stop : String} {g : Generator}
    (made : timestampRangeGenerator start stop = .ok g) :
    ∃ a b, Instant.parse? start = some a ∧ Instant.parse? stop = some b ∧ a.le b = true ∧
      g = .timestampBetween a b := by
  unfold timestampRangeGenerator at made
  split at made
  · cases made
  · next a readStart =>
    split at made
    · cases made
    · next b readStop =>
      split at made
      · next order =>
        cases made
        exact ⟨a, b, readStart, readStop, order, rfl⟩
      · cases made

theorem timestampRangeGenerator_valid {start stop : String} {g : Generator}
    (made : timestampRangeGenerator start stop = .ok g) : g.Valid := by
  obtain ⟨a, b, readStart, readStop, -, rfl⟩ := timestampRangeGenerator_eq_ok made
  exact ⟨Instant.parse?_fits readStart, Instant.parse?_fits readStop⟩

theorem regexGenerator_valid {pattern : String} {maxRepeat : Option UInt32}
    {probability : Option Binary64} {g : Generator}
    (made : regexGenerator pattern maxRepeat probability = .ok g) : g.Valid := by
  unfold regexGenerator at made
  dsimp only at made
  split at made
  · cases made
  · split at made
    · cases made
    · next compiled =>
      cases made
      exact (Pattern.ofText_eq_ok compiled).2.2

/-- A definition that is accepted makes a valid generator. -/
theorem toGenerator_valid {d : Definition} {g : Generator} (made : d.toGenerator = .ok g) : g.Valid := by
  cases d with
  | floatRange min max => exact floatRangeGenerator_valid made
  | timestampRange start stop => exact timestampRangeGenerator_valid made
  | oneOf values =>
    obtain ⟨pool, -, filled, rfl⟩ := poolGenerator_eq_ok made
    exact filled
  | regex pattern maxRepeat probability => exact regexGenerator_valid made
  | weightedBool w =>
    simp only [toGenerator] at made
    split at made
    · next probability =>
      cases made
      exact probability
    · cases made
  | intRange min max =>
    obtain ⟨order, rfl⟩ := intRangeGenerator_eq_ok made
    trivial
  | static v =>
    obtain ⟨w, -, rfl⟩ := staticGenerator_eq_ok made
    trivial
  | uuid | timestampNow | null =>
    cases made
    trivial

end Definition

namespace DefinitionFile

theorem generatorsOf_valid {definitions : List (String × Definition)}
    {pairs : List (String × Generator)} (made : generatorsOf definitions = .ok pairs) :
    ∀ e ∈ pairs, e.2.Valid := by
  induction definitions generalizing pairs with
  | nil =>
    cases made
    simp
  | cons d rest ih =>
    obtain ⟨g, first, made⟩ := (bind_eq_ok_iff ..).mp made
    obtain ⟨gs, others, made⟩ := (bind_eq_ok_iff ..).mp made
    cases made
    refine List.forall_mem_cons.mpr ⟨?_, ih others⟩
    unfold entryGenerator Definition.toNamedGenerator at first
    split at first
    · split at first
      · next made =>
        cases first
        exact Definition.toGenerator_valid made
      · cases first
    · cases first

end DefinitionFile

/-- Every generator of a trusted registry is valid, by induction on the files. -/
theorem Registry.Trusted.valid {r : Registry Generator} (trusted : r.Trusted) :
    ∀ e ∈ r.entries, e.2.Valid := by
  induction trusted with
  | builtins =>
    intro e member
    rcases Entries.mem_setAll member with none | builtin
    · cases none
    · simp only [List.mem_cons, List.not_mem_nil, or_false] at builtin
      rcases builtin with rfl | rfl | rfl | rfl | rfl | rfl | rfl <;> trivial
  | registered before accepted ih =>
    obtain ⟨custom, read, merged⟩ := (bind_eq_ok_iff ..).mp accepted
    obtain ⟨pairs, made, read⟩ := (bind_eq_ok_iff ..).mp read
    cases read
    cases merged
    intro e member
    rcases Entries.mem_setAll member with old | new
    · exact ih e old
    · rcases Entries.mem_setAll new with none | new
      · cases none
      · exact DefinitionFile.generatorsOf_valid made e new

theorem Registry.Trusted.get?_valid {r : Registry Generator} (trusted : r.Trusted) {name : String}
    {g : Generator} (found : r.get? name = some g) : g.Valid :=
  trusted.valid _ (Entries.mem_of_get? found)

end MockSchema
