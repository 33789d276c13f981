import MockSchema.Proofs.DefinitionLoading
import MockSchema.Proofs.TrustedRegistry
import MockSchema.Proofs.Weights

/-!
# Values that definitions declare

A definition that is accepted makes a generator that never fails, and what the generator can give over all random
sources is what the definition declares (`draws_declared_values`). Both halves hold of a generator as soon as they
hold of the single draw that it makes: a draw that is total and yields nothing else always gives a declared value
(`gives_of_total`), and what the draw reaches on a tape is given for some sequence of words
(`canGive_of_reaches`).
-/

namespace MockSchema

open Gen MockSchema.Random

/-! ## Runs of a generator -/

namespace Generator

/-- From every random source, at every time and with any counters there is a value, and it is one of these. -/
def Gives (g : Generator) (P : Value → Prop) : Prop :=
  ∀ (σ : Type) [RandomSource σ] (w : World σ), ∃ v left, g.draw.runFrom w = (.ok v, left) ∧ P v

/-- Some sequence of words leads to the value, at every time and with any counters. -/
def CanGive (g : Generator) (v : Value) : Prop :=
  ∀ now counters, ∃ (word : Nat → UInt64) (left : World Stream),
    g.draw.runFrom ⟨⟨word, 0⟩, now, counters⟩ = (.ok v, left)

/-- Over all random sources the values are exactly these, and there always is one. -/
structure Produces (g : Generator) (P : Value → Prop) : Prop where
  gives : g.Gives P
  each : ∀ v, P v → g.CanGive v

theorem Produces.congr {g : Generator} {P Q : Value → Prop} (produces : g.Produces P) (same : ∀ v, P v ↔ Q v) :
    g.Produces Q := by
  have equal : P = Q := funext fun v => propext (same v)
  exact equal ▸ produces

theorem gives_of_total {g : Generator} {P : Value → Prop}
    (total : ∀ (σ : Type) [RandomSource σ], Total (fun _ => True) (g.draw : Gen (World σ) Value))
    (yields : ∀ (σ : Type) [RandomSource σ], (g.draw : Gen (World σ) Value).Yields P) : g.Gives P := by
  intro σ source w
  obtain ⟨v, left, run, -⟩ := total σ w trivial
  exact ⟨v, left, run, yields σ run⟩

/-- The world of a run gives the words of its source. -/
theorem sameWords_world : SameWords fun (t : Tape) (w : World Stream) => t.StandsIn w.source where
  next32 t w := Tape.sameWords.next32 t w.source
  next64 t w := Tape.sameWords.next64 t w.source
  bytes count t w := Tape.sameWords.bytes count t w.source

theorem canGive_of_reaches {g : Generator} {draw : Gen Tape Value} {v : Value}
    (alike : Alike (fun (t : Tape) (w : World Stream) => t.StandsIn w.source) draw g.draw)
    (reached : Reaches Tape.mk draw v) : g.CanGive v := by
  intro now counters
  exact exists_words (fun word => ⟨⟨word, 0⟩, now, counters⟩) (fun words i => by rw [Nat.zero_add]) alike
    reached

/-! ## Single generators -/

theorem constant_produces (v : Value) : (constant v).Produces (· = v) where
  gives _ _ w := ⟨v, w, rfl, rfl⟩
  each := by
    rintro _ rfl now counters
    exact ⟨fun _ => 0, _, rfl⟩

theorem integer_produces (r : Range) :
    (integer r).Produces fun v => ∃ n, v = .int n ∧ r.min ≤ n ∧ n ≤ r.max where
  gives := gives_of_total (fun _ _ => (between64_total kept_true r.min_le_max).map)
    fun _ _ => (between64_yields _ _).map fun n inside => ⟨n, rfl, inside⟩
  each := by
    rintro _ ⟨n, rfl, lower, upper⟩
    exact canGive_of_reaches (between64_alike sameWords_world _ _).map
      (between64_reaches Tape.isTape lower upper).map

theorem boolean_produces {p : Binary64} (probability : p.isProbability = true) :
    (boolean p).Produces fun v => ∃ b, v = .bool b ∧ p.Allows b where
  gives := gives_of_total (fun _ _ => (chance_total kept_true probability).map)
    fun _ _ => (chance_yields_allowed probability).map fun b allowed => ⟨b, rfl, allowed⟩
  each := by
    rintro _ ⟨b, rfl, allowed⟩
    exact canGive_of_reaches (chance_alike sameWords_world _).map
      (chance_reaches_allowed Tape.isTape probability allowed).map

theorem oneOf_gives {pool : List Value} (some : pool ≠ []) : (oneOf pool).Gives (· ∈ pool) :=
  gives_of_total (fun _ _ => pick_total kept_true some) fun _ _ => pick_yields pool

theorem oneOf_produces {pool : List Value} (some : pool ≠ []) (few : pool.length ≤ UInt64.size) :
    (oneOf pool).Produces (· ∈ pool) where
  gives := oneOf_gives some
  each _ member := canGive_of_reaches (pick_alike sameWords_world pool) (pick_reaches Tape.isTape few member)

end Generator

theorem Yaml.Value.allKeyed_iff (values : List Yaml.Value) :
    AllKeyed values ↔ ∀ entry ∈ values, ∃ v, Value.ofYaml entry = .ok v := by
  induction values with
  | nil => simp [AllKeyed]
  | cons entry rest ih => rw [AllKeyed, ih, List.forall_mem_cons, Value.ofYaml_accepts_iff]

/-! ## Definitions -/

namespace Definition

/-- Under its name a definition is accepted exactly on a condition, and then the generator is like this. -/
structure Becomes (d : Definition) (name : String) (accepted : Prop) (P : Generator → Prop) : Prop where
  accepts : (∃ g, d.toNamedGenerator name = .ok g) ↔ accepted
  made : ∀ g, d.toNamedGenerator name = .ok g → P g

theorem toNamedGenerator_eq_ok_iff (d : Definition) (name : String) (g : Generator) :
    d.toNamedGenerator name = .ok g ↔ d.toGenerator = .ok g := by
  unfold toNamedGenerator
  cases d.toGenerator <;> simp

theorem becomes_of (d : Definition) {accepted : Prop} {P : Generator → Prop} (valid : d.Valid ↔ accepted)
    (made : ∀ g, d.toGenerator = .ok g → P g) (name : String) : d.Becomes name accepted P where
  accepts := by simp only [toNamedGenerator_eq_ok_iff, toGenerator_accepts_iff, valid]
  made g named := made g ((toNamedGenerator_eq_ok_iff ..).mp named)

/-- What the definitions of integers, pools, constants and booleans come to under a name. -/
structure DrawsDeclared (name : String) : Prop where
  /-- Integers are accepted if the bounds are in order, and then they are all those between them. -/
  intRange : ∀ min max, (intRange min max).Becomes name (min ≤ max) fun g =>
    g.Produces fun v => ∃ n, v = .int n ∧ min ≤ n ∧ n ≤ max
  /-- A pool is accepted if it is not empty and each of its entries can be converted, and what it gives are
  converted entries. Up to as many as there are words, all of them can be given. -/
  oneOf : ∀ values, (oneOf values).Becomes name
    (values ≠ [] ∧ ∀ entry ∈ values, ∃ v, Value.ofYaml entry = .ok v) fun g =>
      (g.Gives fun v => ∃ entry ∈ values, Value.ofYaml entry = .ok v) ∧
      (values.length ≤ 2 ^ 64 → g.Produces fun v => ∃ entry ∈ values, Value.ofYaml entry = .ok v)
  /-- A constant is accepted if it can be converted. -/
  static : ∀ value, (static value).Becomes name (∃ v, Value.ofYaml value = .ok v) fun g =>
    g.Produces fun v => Value.ofYaml value = .ok v
  null : null.Becomes name True fun g => g.Produces (· = .null)
  /-- A weight is accepted if it is a probability. Only true is given for certainty and only false for
  impossibility, and in between what the weight allows, which are both if it reaches the share of a word. -/
  weightedBool : ∀ weight, (weightedBool weight).Becomes name (weight.isProbability = true) fun g =>
    (weight.same .one = true → g.Produces (· = .bool true)) ∧
    (weight.same .zero = true → g.Produces (· = .bool false)) ∧
    g.Produces fun v => ∃ b, v = .bool b ∧ weight.Allows b

/-- Over all random sources a definition that is accepted produces exactly the values that it declares. -/
theorem draws_declared_values (name : String) : DrawsDeclared name where
  intRange min max := by
    refine becomes_of (.intRange min max) Iff.rfl (fun g made => ?_) name
    obtain ⟨order, rfl⟩ := intRangeGenerator_eq_ok made
    exact Generator.integer_produces ⟨min, max, order⟩
  oneOf values := by
    refine becomes_of (.oneOf values) (and_congr_right' (Yaml.Value.allKeyed_iff values)) (fun g made => ?_) name
    obtain ⟨pool, read, filled, rfl⟩ := poolGenerator_eq_ok made
    obtain ⟨length, members⟩ := Value.itemsOfYaml_members read
    simp only [← members, ← length]
    exact ⟨Generator.oneOf_gives filled, fun few => Generator.oneOf_produces filled few⟩
  static value := by
    refine becomes_of (.static value) (Value.ofYaml_accepts_iff value).symm (fun g made => ?_) name
    obtain ⟨v, read, rfl⟩ := staticGenerator_eq_ok made
    refine (Generator.constant_produces v).congr fun v' => ?_
    rw [read, Except.ok.injEq, eq_comm]
  null := by
    refine becomes_of .null Iff.rfl (fun g made => ?_) name
    cases made
    exact Generator.constant_produces .null
  weightedBool weight := by
    refine becomes_of (.weightedBool weight) Iff.rfl (fun g made => ?_) name
    rw [toGenerator] at made
    split at made
    · next probability =>
      cases made
      have produces := Generator.boolean_produces probability
      refine ⟨fun certain => produces.congr fun v => ?_, fun impossible => produces.congr fun v => ?_, produces⟩
      · simp only [Binary64.allows_of_same_one certain, exists_eq_right]
      · simp only [Binary64.allows_of_same_zero impossible, exists_eq_right]
    · cases made

end Definition

end MockSchema
