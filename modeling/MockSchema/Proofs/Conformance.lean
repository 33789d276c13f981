import MockSchema.Proofs.KeyOrder
import MockSchema.Proofs.PatternLanguage
import MockSchema.Proofs.Recording
import MockSchema.Proofs.TemplateSegments

/-!
# Generated values conform to their schema

Whether a value conforms to a node is said without the run that made it, by recursion on the node: it
depends on the calls of handles alone, which are used up from left to right. `generate_conforms` states
that whatever a schema generates conforms to its root, with the calls of that run.
-/

namespace MockSchema

variable {η : Type}

/-- A list without range has one element, any other one a number of elements in its range. -/
def HasLength : Option Range → Nat → Prop
  | none, n => n = 1
  | some r, n => r.min.toInt ≤ n ∧ n ≤ r.max.toInt

namespace Node

mutual

/-- A value is one of a node, given the calls that were made for it. -/
def Conforms : Node η → List (η × Value) → Value → Prop
  | .object members, calls, v =>
    ∃ fields, v = .object fields ∧
      Entries.keys fields = (members.map Prod.fst).eraseDups ∧ MembersConform members calls fields
  | .array length element, calls, v =>
    ∃ items, v = .array items ∧ HasLength length items.length ∧
      Gen.InTurn element.Conforms calls items
  | .emptyArray, calls, v => calls = [] ∧ v = .array []
  | .range r, calls, v => calls = [] ∧ ∃ i, v = .int i ∧ r.min ≤ i ∧ i ≤ r.max
  | .template t, calls, v =>
    ∃ cut : TemplateCut, cut.Of t ∧ calls.map Prod.fst = t.params.map Terminal.handle ∧
      v = .string (String.ofList (cut.fill (calls.map fun call => call.2.display)))
  | .literal l, calls, v => calls = [] ∧ v = l.toValue
  | .terminal t, calls, v => calls = [(t.handle, v)]
  | .pattern p, calls, v => calls = [] ∧ ∃ text, v = .string text ∧ text.toList ∈ p.expr.language

/-- Every member, the repeated ones too, made a value that conforms to it; the value of the last member
with a key is the one that the object has there. -/
def MembersConform : List (String × Node η) → List (η × Value) → Entries Value → Prop
  | [], calls, _ => calls = []
  | (key, node) :: rest, calls, fields =>
    ∃ first others v, calls = first ++ others ∧ node.Conforms first v ∧
      (key ∉ rest.map Prod.fst → Entries.get? key fields = some v) ∧
      MembersConform rest others fields

end

end Node

/-! ## Values -/

open Gen

variable {σ : Type}

/-- Every parameter of a template is called once, from left to right. -/
theorem each_records (call : η → Gen σ Value) (params : List (Terminal η)) :
    Records (Gen.each (fun p => recording call p.handle) params)
      (Gen.each (fun p => call p.handle) params)
      fun calls values => calls.map Prod.fst = params.map Terminal.handle ∧
        calls.map Prod.snd = values := by
  induction params with
  | nil => exact records_pure ⟨rfl, rfl⟩
  | cons p rest ih =>
    refine (records_recording call p.handle).bind fun v first one => ih.map fun others vs h => ?_
    obtain ⟨handles, values⟩ := h
    simp [one, handles, values]

/-- A template becomes its cut with the texts of the called values in its places. -/
theorem Template.generate_records (call : η → Gen σ Value) {t : Template η} {cut : TemplateCut}
    (made : cut.Of t) :
    Records (t.generate (recording call)) (t.generate call) fun calls text =>
      calls.map Prod.fst = t.params.map Terminal.handle ∧
        text = String.ofList (cut.fill (calls.map fun call => call.2.display)) := by
  refine (each_records call t.params).map fun calls values h => ?_
  obtain ⟨handles, rfl⟩ := h
  have enough : (calls.map Prod.snd).length = t.params.length := by
    simpa using congrArg List.length handles
  exact ⟨handles, by simp [Template.fill_eq made enough, Function.comp_def]⟩

variable [RandomSource σ]

theorem Range.draw_yields (r : Range) :
    (r.draw : Gen σ Int64).Yields fun i => r.min ≤ i ∧ i ≤ r.max := by
  unfold Range.draw
  split
  · next one => exact yields_pure ⟨Int64.le_refl _, r.min_le_max⟩
  · exact Random.between64_yields _ _

theorem drawLength_yields {length : Option Range} (countable : ∀ r ∈ length, 0 ≤ r.min) :
    (drawLength length : Gen σ Nat).Yields (HasLength length) := by
  cases length with
  | none => exact yields_pure rfl
  | some r =>
    refine r.draw_yields.map fun i inside => ?_
    have least := Int64.le_iff_toInt_le.mp (countable r rfl)
    obtain ⟨lower, upper⟩ := inside
    rw [Int64.le_iff_toInt_le] at lower upper
    rw [Int64.toInt_zero] at least
    simp only [HasLength]
    omega

namespace Node

variable (call : η → Gen σ Value) {named : Terminal η → Prop}

mutual

/-- The value that a node generates conforms to it with the calls that are made meanwhile. -/
theorem generate_records : ∀ node : Node η, node.Formed named →
    Records (node.generate (recording call)) (node.generate call) node.Conforms
  | .object members, formed => by
    refine (generateMembers_records members formed).map fun calls pairs made => ?_
    obtain ⟨keys, conform⟩ := made
    exact ⟨_, rfl, by rw [Entries.keys_ofPairs, keys], conform []⟩
  | .array length element, formed => by
    have silent : Silent (drawLength length : Gen (Recorded η σ) Nat) (drawLength length) :=
      silent_of_alike fun _ words => drawLength_alike words length
    refine (silent.records (drawLength_yields formed.1)).bind fun n _ drawn => ?_
    obtain ⟨rfl, allowed⟩ := drawn
    refine ((generate_records element formed.2).times n).map fun calls items made => ?_
    exact ⟨items, rfl, by rw [made.1]; exact allowed, made.2⟩
  | .emptyArray, _ => records_pure ⟨rfl, rfl⟩
  | .range r, _ =>
    ((silent_of_alike fun _ => r.draw_alike).records r.draw_yields).map fun _ i h =>
      ⟨h.1, i, rfl, h.2⟩
  | .template t, formed => by
    obtain ⟨-, cut, made⟩ := formed
    refine (Template.generate_records call made).map fun calls text h => ?_
    exact ⟨cut, made, h.1, by rw [h.2]⟩
  | .literal _, _ => records_pure ⟨rfl, rfl⟩
  | .terminal t, _ => records_recording call t.handle
  | .pattern p, formed =>
    ((silent_of_alike fun _ => p.draw_alike).records (Pattern.draw_yields formed)).map fun _ text h =>
      ⟨h.1, text, rfl, Pattern.Expr.languageOver_mono
        (Pattern.Counts.drawn_subset_allowed p.settings) p.expr _ h.2⟩

theorem generateMembers_records : ∀ members : List (String × Node η), MembersFormed named members →
    Records (generateMembers (recording call) members) (generateMembers call members)
      fun calls pairs => pairs.map Prod.fst = members.map Prod.fst ∧
        ∀ before, MembersConform members calls (Entries.ofPairs (before ++ pairs))
  | [], _ => records_pure ⟨rfl, fun _ => rfl⟩
  | (key, node) :: rest, formed => by
    refine (generate_records node formed.1).bind fun v first conforms => ?_
    refine (generateMembers_records rest formed.2).map fun others pairs made => ?_
    obtain ⟨keys, conform⟩ := made
    refine ⟨by simp [keys], fun before => ⟨first, others, v, rfl, conforms, ?_, ?_⟩⟩
    · intro last
      exact Entries.get?_ofPairs_last (keys ▸ last) before v
    · simpa using conform (before ++ [(key, v)])

end

end Node

/-- A schema that was read gives values that conform to its root. The calls are those of the recorded run,
which has the same result and leaves the same state. -/
theorem Schema.generate_conforms {ctx : Context η} {tokens : List Token} {schema : Schema η}
    (read : Schema.ofTokens ctx tokens = .ok schema) (call : η → Gen σ Value) {s s' : σ} {v : Value}
    (run : (schema.generate call).runFrom s = (.ok v, s')) :
    ∃ root calls, schema = ⟨some root⟩ ∧
      (schema.generate (recording call)).runFrom ⟨s, []⟩ = (.ok v, ⟨s', calls⟩) ∧
      root.Conforms calls v := by
  obtain ⟨root, rfl, formed⟩ := Schema.ofTokens_formed read
  obtain ⟨calls, recorded, conforms⟩ := root.generate_records call formed run
  exact ⟨root, calls, rfl, recorded [], conforms⟩

/-- A list of two values of one handle. -/
theorem Schema.generate_conforms_pair :
    ∃ root calls, Schema.ofTokens ⟨Registry.ofPairs [("id", ())], .initial⟩
      [⟨.lbracket, "[", 0⟩, ⟨.lparen, "(", 1⟩, ⟨.integer, "2", 2⟩, ⟨.rparen, ")", 3⟩,
        ⟨.comma, ",", 4⟩, ⟨.ident, "id", 5⟩, ⟨.rbracket, "]", 7⟩] = .ok ⟨some root⟩ ∧
      root.Conforms calls (.array [.int 7, .int 7]) := by
  have read : Schema.ofTokens ⟨Registry.ofPairs [("id", ())], .initial⟩
      [⟨.lbracket, "[", 0⟩, ⟨.lparen, "(", 1⟩, ⟨.integer, "2", 2⟩, ⟨.rparen, ")", 3⟩,
        ⟨.comma, ",", 4⟩, ⟨.ident, "id", 5⟩, ⟨.rbracket, "]", 7⟩] =
      .ok ⟨some (.array (some (.fixed 2)) (.terminal ⟨"id", ()⟩))⟩ := rfl
  have run : (Schema.generate (fun _ => pure (.int 7))
      ⟨some (.array (some (.fixed 2)) (.terminal ⟨"id", ()⟩))⟩ : Gen Random.Stream Value).runFrom
      (.cycle #[]) = (.ok (.array [.int 7, .int 7]), .cycle #[]) := rfl
  obtain ⟨root, calls, rooted, -, conforms⟩ := Schema.generate_conforms read _ run
  exact ⟨root, calls, read.trans (congrArg Except.ok rooted), conforms⟩

end MockSchema
