import MockSchema.Proofs.Recording
import MockSchema.Proofs.Totality

/-!
# Generation part by part

A value of a node is made up of the values of its parts, drawn one after the other: the members of an object
as written, those whose key is set again later included, as many elements of a list as it has, the parameters
of a template from left to right. `Runs` is such a sequence of draws, each from the state that the one before
it left, and `Breaks` one that ends with a failure. A run of a node succeeds exactly if its parts run, and
fails exactly if they break, with the failure and the state of the part that fails; the parts behind that one
are never drawn (`Node.isComposed`). A state is all there is beside the node: the words to come, and whatever
the names called keep. How many elements a memory can hold is not asked.
-/

namespace MockSchema

namespace Gen

variable {σ α β γ : Type}

theorem runFrom_bind_eq_error_iff (g : Gen σ α) (f : α → Gen σ β) (s s'' : σ) (e : Failure) :
    (g >>= f).runFrom s = (.error e, s'') ↔
      g.runFrom s = (.error e, s'') ∨
        ∃ a s', g.runFrom s = (.ok a, s') ∧ (f a).runFrom s' = (.error e, s'') := by
  rw [runFrom_bind]
  rcases g.runFrom s with ⟨_ | a, s'⟩
  · simp
  · constructor
    · exact fun run => .inr ⟨a, s', rfl, run⟩
    · rintro (run | ⟨_, _, ⟨rfl, rfl⟩, run⟩)
      · cases run
      · exact run

/-! ## Sequences of draws -/

/-- The draws succeed one after the other, each from the state that the one before it left. -/
inductive Runs : List (Gen σ α) → σ → List α → σ → Prop
  | nil (s : σ) : Runs [] s [] s
  | cons {g : Gen σ α} {rest : List (Gen σ α)} {s s' s'' : σ} {a : α} {as : List α} :
      g.runFrom s = (.ok a, s') → Runs rest s' as s'' → Runs (g :: rest) s (a :: as) s''

/-- The draws succeed up to one that fails, and the state is the one that it leaves. -/
def Breaks (parts : List (Gen σ α)) (s : σ) (e : Failure) (s' : σ) : Prop :=
  ∃ done g rest as middle, parts = done ++ g :: rest ∧ Runs done s as middle ∧
    g.runFrom middle = (.error e, s')

@[simp] theorem runs_nil_iff {s s' : σ} {as : List α} :
    Runs ([] : List (Gen σ α)) s as s' ↔ as = [] ∧ s' = s := by
  constructor
  · rintro ⟨⟩
    exact ⟨rfl, rfl⟩
  · rintro ⟨rfl, rfl⟩
    exact .nil s'

theorem runs_cons_iff {g : Gen σ α} {rest : List (Gen σ α)} {s s'' : σ} {as : List α} :
    Runs (g :: rest) s as s'' ↔
      ∃ a s' others, g.runFrom s = (.ok a, s') ∧ Runs rest s' others s'' ∧ as = a :: others := by
  constructor
  · rintro (_ | ⟨first, others⟩)
    exact ⟨_, _, _, first, others, rfl⟩
  · rintro ⟨a, s', others, first, runs, rfl⟩
    exact .cons first runs

theorem Runs.length_eq {parts : List (Gen σ α)} {s s' : σ} {as : List α} (runs : Runs parts s as s') :
    as.length = parts.length := by
  induction runs with
  | nil => rfl
  | cons _ _ ih => exact congrArg (· + 1) ih

@[simp] theorem not_breaks_nil {s s' : σ} {e : Failure} : ¬ Breaks ([] : List (Gen σ α)) s e s' := by
  rintro ⟨done, g, rest, -, -, split, -⟩
  cases done <;> cases split

/-- Either the first draw fails, or it succeeds and a later one fails. -/
theorem breaks_cons_iff {g : Gen σ α} {rest : List (Gen σ α)} {s s'' : σ} {e : Failure} :
    Breaks (g :: rest) s e s'' ↔
      g.runFrom s = (.error e, s'') ∨
        ∃ a s', g.runFrom s = (.ok a, s') ∧ Breaks rest s' e s'' := by
  constructor
  · rintro ⟨_ | ⟨first, done⟩, failing, behind, as, middle, split, runs, fails⟩
    · obtain ⟨rfl, rfl⟩ := List.cons.inj split
      obtain ⟨-, rfl⟩ := runs_nil_iff.mp runs
      exact .inl fails
    · obtain ⟨rfl, rfl⟩ := List.cons.inj split
      obtain ⟨a, s', others, run, runs, -⟩ := runs_cons_iff.mp runs
      exact .inr ⟨a, s', run, done, failing, behind, others, middle, rfl, runs, fails⟩
  · rintro (fails | ⟨a, s', run, done, failing, behind, as, middle, rfl, runs, fails⟩)
    · exact ⟨[], g, rest, [], s, rfl, .nil s, fails⟩
    · exact ⟨g :: done, failing, behind, a :: as, middle, rfl, .cons run runs, fails⟩

/-- What comes out of a sequence of draws: what their results make up, and the state behind the last one; or
the failure of one of them, and the state behind that one. -/
structure IsOutcome (parts : List (Gen σ α)) (whole : List α → β) (s : σ)
    (outcome : Except Failure β × σ) : Prop where
  ok_iff : ∀ b s', outcome = (.ok b, s') ↔ ∃ as, Runs parts s as s' ∧ whole as = b
  error_iff : ∀ e s', outcome = (.error e, s') ↔ Breaks parts s e s'

/-- A draw that draws its parts one after the other and nothing else. -/
def Composes (parts : List (Gen σ α)) (whole : List α → β) (g : Gen σ β) : Prop :=
  ∀ s, IsOutcome parts whole s (g.runFrom s)

theorem composes_pure (whole : List α → β) : Composes [] whole (pure (whole []) : Gen σ β) := by
  intro s
  constructor
  · intro b s'
    simp [Prod.ext_iff, eq_comm, and_comm]
  · intro e s'
    simp

/-- A first part is drawn, then the others, and its result is put in front. -/
theorem Composes.cons {g : Gen σ α} {rest : Gen σ β} {parts : List (Gen σ α)} {whole : List α → β}
    {f : α → β → γ} {whole' : List α → γ} (others : Composes parts whole rest)
    (front : ∀ a as, whole' (a :: as) = f a (whole as)) :
    Composes (g :: parts) whole' (do
      let a ← g
      let b ← rest
      return f a b) := by
  intro s
  constructor
  · intro c s''
    simp only [runFrom_bind_eq_ok_iff, (others _).ok_iff, runs_cons_iff]
    constructor
    · rintro ⟨a, s', first, _, _, ⟨as, runs, rfl⟩, made⟩
      cases made
      exact ⟨a :: as, ⟨a, s', as, first, runs, rfl⟩, front a as⟩
    · rintro ⟨_, ⟨a, s', as, first, runs, rfl⟩, rfl⟩
      exact ⟨a, s', first, whole as, s'', ⟨as, runs, rfl⟩, by rw [front]; rfl⟩
  · intro e s''
    simp only [runFrom_bind_eq_error_iff, (others _).error_iff, breaks_cons_iff]
    simp

theorem Composes.map {g : Gen σ β} {parts : List (Gen σ α)} {whole : List α → β} (f : β → γ)
    (parted : Composes parts whole g) : Composes parts (f ∘ whole) (do return f (← g)) := by
  intro s
  constructor
  · intro c s'
    simp only [runFrom_bind_eq_ok_iff, (parted s).ok_iff]
    constructor
    · rintro ⟨_, _, ⟨as, runs, rfl⟩, made⟩
      cases made
      exact ⟨as, runs, rfl⟩
    · rintro ⟨as, runs, rfl⟩
      exact ⟨_, s', ⟨as, runs, rfl⟩, rfl⟩
  · intro e s'
    simp only [runFrom_bind_eq_error_iff, (parted s).error_iff]
    simp

/-- As many results as there are parts are put together. -/
theorem Composes.congr {g : Gen σ β} {parts : List (Gen σ α)} {whole whole' : List α → β}
    (parted : Composes parts whole g) (same : ∀ as, as.length = parts.length → whole as = whole' as) :
    Composes parts whole' g := by
  intro s
  refine ⟨fun b s' => ?_, (parted s).error_iff⟩
  rw [(parted s).ok_iff]
  refine exists_congr fun as => and_congr_right fun runs => ?_
  rw [same as runs.length_eq]

theorem each_composes (f : β → Gen σ α) (bs : List β) : Composes (bs.map f) id (each f bs) := by
  induction bs with
  | nil => exact composes_pure id
  | cons b rest ih => exact ih.cons fun _ _ => rfl

/-! ## Journals -/

section

variable {η : Type} {call : η → Gen σ Value} {r r' : Recorded η σ}

end

end Gen

open Gen

variable {σ η : Type} (call : η → Gen σ Value)

/-! ## Nodes -/

namespace Template

theorem generate_composes (t : Template η) :
    Composes ((t.params.map Terminal.handle).map call) t.fill (t.generate call) := by
  rw [List.map_map]
  exact (each_composes (fun p => call p.handle) t.params).map t.fill

end Template

variable [RandomSource σ]

namespace Node

end Node

end MockSchema
