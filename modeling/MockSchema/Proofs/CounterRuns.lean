import MockSchema.Generator.Basic
import MockSchema.Proofs.Conformance
import MockSchema.Proofs.Simulation
import MockSchema.Proofs.Totality

/-!
# Counters in a run

A run whose calls are recorded is the run without the journal, also where it fails (`recorded_eq`). In
the journal the results of a counter number its calls: they are successive integers from the one at which the
counter stood before the run, and the counter is left behind the last of them (`recorded_numbered`). No other
generator moves a counter.
-/

namespace MockSchema

open Gen

variable {σ : Type}

/-! ## What a run keeps -/

/-- A run leads from states of a kind to states of that kind, whether it succeeds or not. -/
def Gen.Keeps {σ α : Type} (I : σ → Prop) (g : Gen σ α) : Prop := ∀ s, I s → I (g.runFrom s).2

section

variable {τ α : Type} {I : τ → Prop}

theorem keeps_iff_alike {g : Gen τ α} : Keeps I g ↔ Alike (fun s t => s = t ∧ I s) g g := by
  constructor
  · rintro keeps s _ ⟨rfl, holds⟩
    exact ⟨rfl, rfl, keeps s holds⟩
  · intro alike s holds
    exact (alike s s ⟨rfl, holds⟩).2.2

theorem Gen.Kept.sameWords [RandomSource τ] (kept : Kept I) :
    SameWords fun s t : τ => s = t ∧ I s := by
  refine ⟨?_, ?_, ?_⟩
  · rintro s _ ⟨rfl, holds⟩
    exact ⟨rfl, rfl, kept.next32 s holds⟩
  · rintro s _ ⟨rfl, holds⟩
    exact ⟨rfl, rfl, kept.next64 s holds⟩
  · rintro count s _ ⟨rfl, holds⟩
    exact ⟨rfl, rfl, kept.bytes count s holds⟩

/-- What the calls of its names keep, a run of a node keeps. -/
theorem Node.generate_keeps [RandomSource τ] {η : Type} {call : η → Gen τ Value}
    {named : Terminal η → Prop} {compiled : Pattern → Prop} (kept : Kept I)
    (calls : ∀ t, named t → Keeps I (call t.handle)) {node : Node η}
    (every : node.Every named compiled) : Keeps I (node.generate call) :=
  keeps_iff_alike.mpr <|
    node.generate_alike kept.sameWords (fun t known => keeps_iff_alike.mp (calls t known)) every

end

variable [RandomSource σ]

/-- Conditions on the counters do not depend on words. -/
theorem World.kept_counters (P : List Int64 → Prop) :
    Kept fun w : World σ => P w.counters :=
  ⟨fun _ holds => holds, fun _ holds => holds, fun _ _ holds => holds⟩

theorem Instant.between_alike {τ : Type} [RandomSource τ] {R : τ → τ → Prop} (words : SameWords R)
    (start stop : Instant) : Alike R (Instant.between start stop) (Instant.between start stop) := by
  unfold Instant.between
  split
  · exact alike_pure start
  · exact (Random.between64_alike words _ _).map

/-- Only counters move counters. -/
theorem Generator.draw_keeps {P : List Int64 → Prop} (g : Generator)
    (counts : ∀ cell, g = .counter cell → ∀ w : World σ, P w.counters →
      P (World.count cell w).2.counters) :
    Keeps (fun w : World σ => P w.counters) g.draw := by
  have words := (World.kept_counters P).sameWords (τ := World σ)
  have clock : Alike (fun v w : World σ => v = w ∧ P v.counters) (step fun w => (w.now, w))
      (step fun w => (w.now, w)) := by
    refine alike_step ?_
    rintro w _ ⟨rfl, holds⟩
    exact ⟨rfl, rfl, holds⟩
  rw [keeps_iff_alike]
  cases g with
  | constant v => exact alike_pure v
  | failing f => exact alike_fail f
  | counter cell =>
    refine Alike.map (alike_step ?_)
    rintro w _ ⟨rfl, holds⟩
    exact ⟨rfl, rfl, counts cell rfl w holds⟩
  | word => exact (alike_step (Random.word32_alike words)).map
  | firstName => exact (Person.firstName_alike words).map
  | lastName => exact (Person.lastName_alike words).map
  | fullName => exact (Person.fullName_alike words).map
  | email => exact (Person.email_alike words).map
  | phoneNumber => exact (Person.phoneNumber_alike words).map
  | uuid => exact (Uuid.draw_alike words).map
  | timestampUntilNow => exact clock.bind fun now => (Instant.between_alike words .epoch now).map
  | timestampNow => exact clock.map
  | timestampBetween start stop => exact (Instant.between_alike words start stop).map
  | integer r => exact (Random.between64_alike words r.min r.max).map
  | float min max => exact (Random.betweenFloats_alike words min max).map
  | boolean p => exact (Random.chance_alike words p).map
  | oneOf pool => exact Random.pick_alike words pool
  | pattern p => exact (p.draw_alike words).map

/-- No run of a schema makes a counter. -/
theorem Schema.generate_keeps_length (schema : Schema Generator) (w : World σ) :
    ((schema.generate Generator.draw).runFrom w).2.counters.length = w.counters.length := by
  obtain ⟨root⟩ := schema
  cases root with
  | none => rfl
  | some root =>
    have calls (g : Generator) : Keeps (fun v : World σ => v.counters.length = w.counters.length) g.draw := by
      refine g.draw_keeps (P := fun cs => cs.length = w.counters.length) ?_
      rintro cell - v same
      rwa [World.count, List.length_set]
    exact root.generate_keeps (World.kept_counters (·.length = w.counters.length))
      (fun t _ => calls t.handle) root.every_true w rfl

/-! ## The journal -/

/-- The journal belongs to the run that is made without it. -/
theorem recording_alike {η τ : Type} (call : η → Gen τ Value) (handle : η) :
    Alike (Beside fun _ => True) (recording call handle) (call handle) := by
  rintro ⟨s, calls⟩ _ ⟨rfl, -⟩
  change (recording call handle ⟨s, calls⟩).1 = _ ∧ (recording call handle ⟨s, calls⟩).2.state = _ ∧ True
  unfold recording
  dsimp only
  split
  · next run => exact run ▸ ⟨rfl, rfl, trivial⟩
  · next run => exact run ▸ ⟨rfl, rfl, trivial⟩

theorem kept_calls {η τ : Type} [RandomSource τ] (P : List (η × Value) → Prop) :
    Kept fun r : Recorded η τ => P r.calls :=
  ⟨fun _ holds => holds, fun _ holds => holds, fun _ _ holds => holds⟩

/-! ## Numbers -/

/-- What a call gave if it was one of a counter. -/
def resultOf? (cell : Nat) : Generator × Value → Option Value
  | (.counter other, v) => if other = cell then some v else none
  | _ => none

/-- The results of a counter in order. -/
def results (cell : Nat) (calls : List (Generator × Value)) : List Value :=
  calls.filterMap (resultOf? cell)

/-- Successive integers. -/
def numbers (start : Int64) : Nat → List Value
  | 0 => []
  | n + 1 => .int start :: numbers (start + 1) n

theorem start_add_succ (start : Int64) (n : Nat) :
    start + 1 + Int64.ofNat n = start + Int64.ofNat (n + 1) := by
  rw [Nat.add_comm, Int64.ofNat_add, ← Int64.add_assoc]
  rfl

theorem numbers_add (start : Int64) (m n : Nat) :
    numbers start (m + n) = numbers start m ++ numbers (start + Int64.ofNat m) n := by
  induction m generalizing start with
  | zero => rw [Nat.zero_add, numbers, List.nil_append, show Int64.ofNat 0 = 0 from rfl, Int64.add_zero]
  | succ m ih =>
    rw [Nat.succ_add, numbers, numbers, ih, List.cons_append, start_add_succ]

/-- The results of a counter are successive integers, and the counter stands behind the last of them. -/
def Numbered (cell : Nat) (start : Int64) (calls : List (Generator × Value)) (w : World σ) : Prop :=
  ∃ n, results cell calls = numbers start n ∧ w.counters[cell]? = some (start + Int64.ofNat n)

theorem resultOf?_eq_none {cell : Nat} {g : Generator} (other : g ≠ .counter cell) (v : Value) :
    resultOf? cell (g, v) = none := by
  unfold resultOf?
  split
  · next c v' same =>
    cases same
    rw [if_neg (fun same => other (congrArg Generator.counter same))]
  · rfl

/-- One more call leaves the calls numbered, whatever is called. -/
theorem recording_numbered (cell : Nat) (start : Int64) (g : Generator) :
    Keeps (fun r : Recorded Generator (World σ) => Numbered cell start r.calls r.state)
      (recording Generator.draw g) := by
  rintro ⟨w, calls⟩ ⟨n, counted, stands⟩
  by_cases same : g = .counter cell
  · subst same
    have number : w.counters.getD cell 0 = start + Int64.ofNat n := by
      rw [List.getD_eq_getElem?_getD, stands, Option.getD_some]
    have inside : cell < w.counters.length := (List.getElem?_eq_some_iff.mp stands).1
    refine ⟨n + 1, ?_, ?_⟩
    · change results cell (calls ++ [(.counter cell, .int (w.counters.getD cell 0))]) = _
      rw [numbers_add, ← counted, number, results, List.filterMap_append]
      simp [results, resultOf?, numbers]
    · change (w.counters.set cell (w.counters.getD cell 0 + 1))[cell]? = _
      rw [List.getElem?_set_self inside, number, Int64.add_assoc, Int64.ofNat_add]
      rfl
  -- another generator leaves this counter alone, and what it gives is no result of it
  · have still : ((g.draw).runFrom w).2.counters[cell]? = some (start + Int64.ofNat n) := by
      refine g.draw_keeps (P := fun cs => cs[cell]? = some (start + Int64.ofNat n)) ?_ w stands
      rintro other rfl v holds
      have apart : other ≠ cell := fun h => same (congrArg Generator.counter h)
      rwa [World.count, List.getElem?_set_ne apart]
    rcases runFrom_recording Generator.draw g ⟨w, calls⟩ with ⟨v, w', run, after⟩ | ⟨e, w', run, after⟩
    · rw [run] at still
      rw [after]
      refine ⟨n, ?_, still⟩
      rw [results, List.filterMap_append, List.filterMap_cons, resultOf?_eq_none same v,
        List.filterMap_nil, List.append_nil]
      exact counted
    · rw [run] at still
      rw [after]
      exact ⟨n, counted, still⟩

namespace Schema

/-- A run with its journal. -/
def recorded (schema : Schema Generator) (w : World σ) : Except Failure Value × Recorded Generator (World σ) :=
  (schema.generate (recording Generator.draw)).runFrom ⟨w, []⟩

/-- The run without the journal has the same result and leaves the same world. -/
theorem recorded_eq (schema : Schema Generator) (w : World σ) :
    (schema.recorded w).1 = ((schema.generate Generator.draw).runFrom w).1 ∧
      (schema.recorded w).2.state = ((schema.generate Generator.draw).runFrom w).2 := by
  obtain ⟨root⟩ := schema
  cases root with
  | none => exact ⟨rfl, rfl⟩
  | some root =>
    obtain ⟨same, state, -⟩ := root.generate_alike (sameWords_beside fun _ => True)
      (fun t _ => recording_alike Generator.draw t.handle) root.every_true ⟨w, []⟩ w ⟨rfl, trivial⟩
    exact ⟨same, state⟩

/-- In one run of a schema the results of a counter number its calls. -/
theorem recorded_numbered (schema : Schema Generator) {cell : Nat} {start : Int64} {w : World σ}
    (stands : w.counters[cell]? = some start) :
    Numbered cell start (schema.recorded w).2.calls (schema.recorded w).2.state := by
  have begins : Numbered cell start [] w := ⟨0, rfl, by simpa using stands⟩
  obtain ⟨root⟩ := schema
  cases root with
  | none => exact begins
  | some root =>
    have kept : Kept fun r : Recorded Generator (World σ) => Numbered cell start r.calls r.state :=
      ⟨fun _ holds => holds, fun _ holds => holds, fun _ _ holds => holds⟩
    exact root.generate_keeps kept (fun t _ => recording_numbered cell start t.handle) root.every_true
      ⟨w, []⟩ begins

/-- A run calls the handles of its names only. -/
theorem recorded_calls {root : Node Generator} {handle : String → Option Generator}
    {compiled : Pattern → Prop} (every : root.Every (fun t => handle t.name = some t.handle) compiled)
    (w : World σ) :
    ∀ call ∈ (recorded ⟨some root⟩ w).2.calls, ∃ name, handle name = some call.1 := by
  have known (t : Terminal Generator) (is : handle t.name = some t.handle) :
      Keeps (fun r : Recorded Generator (World σ) => ∀ call ∈ r.calls, ∃ name, handle name = some call.1)
        (recording Generator.draw t.handle) := by
    intro r before
    rcases runFrom_recording Generator.draw t.handle r with ⟨v, w', -, after⟩ | ⟨e, w', -, after⟩
    · rw [after]
      exact List.forall_mem_append.mpr ⟨before, List.forall_mem_singleton.mpr ⟨t.name, is⟩⟩
    · rw [after]
      exact before
  exact root.generate_keeps (kept_calls fun calls => ∀ call ∈ calls, ∃ name, handle name = some call.1)
    known every ⟨w, []⟩ (by simp)

/-- The calls of a run that succeeds are used up by its value. -/
theorem recorded_conforms {root : Node Generator} {named : Terminal Generator → Prop}
    (formed : root.Formed named) {v : Value} {w w' : World σ}
    (run : (generate Generator.draw ⟨some root⟩).runFrom w = (.ok v, w')) :
    root.Conforms (recorded ⟨some root⟩ w).2.calls v := by
  obtain ⟨calls, recorded, conforms⟩ := root.generate_records Generator.draw formed run
  have journal : (Schema.recorded ⟨some root⟩ w).2.calls = calls := by
    change ((root.generate (recording Generator.draw)).runFrom ⟨w, []⟩).2.calls = calls
    rw [recorded []]
    rfl
  rw [journal]
  exact conforms

end Schema

end MockSchema
