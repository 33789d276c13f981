import MockSchema.Proofs.Simulation

/-!
# Recorded runs

A recorded run keeps a journal beside its state: every handle that was called, with the value it gave.
Nothing reads the journal, so a recorded run gives what the run without it gives (`Records`). A draw that only
takes words is silent, which means that it leaves the journal alone (`silent_of_alike`).
-/

namespace MockSchema

/-- A state with the calls so far, the first one first. -/
structure Recorded (η σ : Type) where
  state : σ
  calls : List (η × Value)

variable {η σ α β : Type}

namespace Recorded

/-- Takes a word from the state. -/
def draw (f : σ → α × σ) (r : Recorded η σ) : α × Recorded η σ :=
  let (a, s) := f r.state
  (a, { r with state := s })

instance [RandomSource σ] : RandomSource (Recorded η σ) where
  next32 := draw RandomSource.next32
  next64 := draw RandomSource.next64
  bytes count := draw (RandomSource.bytes count)

end Recorded

/-- Calls a handle and puts down the value it gives. -/
def recording (call : η → Gen σ Value) (handle : η) : Gen (Recorded η σ) Value := fun r =>
  match (call handle).runFrom r.state with
  | (.ok v, s) => (.ok v, ⟨s, r.calls ++ [(handle, v)]⟩)
  | (.error e, s) => (.error e, ⟨s, r.calls⟩)

/-- A call that gives a value is put down, one that fails is not. -/
theorem runFrom_recording (call : η → Gen σ Value) (handle : η) (r : Recorded η σ) :
    (∃ v s, (call handle).runFrom r.state = (.ok v, s) ∧
        (recording call handle).runFrom r = (.ok v, ⟨s, r.calls ++ [(handle, v)]⟩)) ∨
      ∃ e s, (call handle).runFrom r.state = (.error e, s) ∧
        (recording call handle).runFrom r = (.error e, ⟨s, r.calls⟩) := by
  change (∃ v s, _ ∧ recording call handle r = _) ∨ ∃ e s, _ ∧ recording call handle r = _
  unfold recording
  split
  · next v s run => exact .inl ⟨v, s, run, rfl⟩
  · next e s run => exact .inr ⟨e, s, run, rfl⟩

namespace Gen

/-- Wherever the plain run succeeds, the recorded one has the same result and state, and the calls it adds
to the journal satisfy a condition together with the result. -/
def Records (recorded : Gen (Recorded η σ) α) (plain : Gen σ α)
    (P : List (η × Value) → α → Prop) : Prop :=
  ∀ ⦃s a s'⦄, plain.runFrom s = (.ok a, s') → ∃ calls,
    (∀ before, recorded.runFrom ⟨s, before⟩ = (.ok a, ⟨s', before ++ calls⟩)) ∧ P calls a

/-- The recorded run calls nothing. -/
def Silent (recorded : Gen (Recorded η σ) α) (plain : Gen σ α) : Prop :=
  Records recorded plain fun calls _ => calls = []

section

variable {g : Gen (Recorded η σ) α} {g' : Gen σ α} {f : α → Gen (Recorded η σ) β} {f' : α → Gen σ β}
  {P Q : List (η × Value) → α → Prop} {R : List (η × Value) → β → Prop}

theorem Records.mono (h : Records g g' P) (imp : ∀ calls a, P calls a → Q calls a) :
    Records g g' Q := by
  intro s a s' run
  obtain ⟨calls, recorded, holds⟩ := h run
  exact ⟨calls, recorded, imp calls a holds⟩

theorem records_pure {a : α} (h : P [] a) :
    Records (pure a : Gen (Recorded η σ) α) (pure a) P := by
  intro s b s' run
  cases run
  exact ⟨[], fun before => by simp, h⟩

/-- The calls of a second part stand behind those of the first. -/
theorem Records.bind (hg : Records g g' P)
    (hf : ∀ a first, P first a → Records (f a) (f' a) fun rest b => R (first ++ rest) b) :
    Records (g >>= f) (g' >>= f') R := by
  intro s b s'' run
  obtain ⟨a, s', run, run'⟩ := (runFrom_bind_eq_ok_iff ..).mp run
  obtain ⟨first, recorded, holds⟩ := hg run
  obtain ⟨rest, recorded', holds'⟩ := hf a first holds run'
  refine ⟨first ++ rest, fun before => ?_, holds'⟩
  rw [runFrom_bind, recorded before]
  simpa using recorded' (before ++ first)

theorem Records.map {f : α → β} (hg : Records g g' P) (hf : ∀ calls a, P calls a → R calls (f a)) :
    Records (do return f (← g)) (do return f (← g')) R :=
  hg.bind fun a first h => records_pure (by simpa using hf first a h)

/-- What a silent draw yields, it yields without a call. -/
theorem Silent.records {P : α → Prop} (hg : Silent g g') (yields : g'.Yields P) :
    Records g g' fun calls a => calls = [] ∧ P a := by
  intro s a s' run
  obtain ⟨calls, recorded, none⟩ := hg run
  exact ⟨calls, recorded, none, yields run⟩

/-- Results one after the other, each with its part of the calls. -/
def InTurn (P : List (η × Value) → α → Prop) : List (η × Value) → List α → Prop
  | calls, [] => calls = []
  | calls, a :: as => ∃ first rest, calls = first ++ rest ∧ P first a ∧ InTurn P rest as

theorem Records.times (hg : Records g g' P) (n : Nat) :
    Records (times g n) (times g' n) fun calls as => as.length = n ∧ InTurn P calls as := by
  induction n with
  | zero => exact records_pure ⟨rfl, rfl⟩
  | succ n ih =>
    refine hg.bind fun a first h => ih.map fun rest as others => ⟨?_, first, rest, rfl, h, others.2⟩
    simp [others.1]

theorem records_recording (call : η → Gen σ Value) (handle : η) :
    Records (recording call handle) (call handle) fun calls v => calls = [(handle, v)] := by
  intro s v s' run
  refine ⟨_, fun before => ?_, rfl⟩
  change recording call handle ⟨s, before⟩ = _
  simp only [recording, run]

end

/-! ## Silent draws -/

/-- The plain state, with a journal of a kind beside it. -/
def Beside (P : List (η × Value) → Prop) (r : Recorded η σ) (s : σ) : Prop := r.state = s ∧ P r.calls

theorem sameWords_beside [RandomSource σ] (P : List (η × Value) → Prop) :
    SameWords (Beside P : Recorded η σ → σ → Prop) := by
  refine ⟨?_, ?_, ?_⟩
  · rintro r _ ⟨rfl, holds⟩
    exact ⟨rfl, rfl, holds⟩
  · rintro r _ ⟨rfl, holds⟩
    exact ⟨rfl, rfl, holds⟩
  · rintro count r _ ⟨rfl, holds⟩
    exact ⟨rfl, rfl, holds⟩

/-- A draw that cannot tell states apart that give the same words is silent. -/
theorem silent_of_alike [RandomSource σ] {g : Gen (Recorded η σ) α} {g' : Gen σ α}
    (alike : ∀ R, SameWords R → Alike R g g') : Silent g g' := by
  intro s a s' run
  refine ⟨[], fun before => ?_, rfl⟩
  -- relate the states through one journal at a time: the draw must then keep that journal
  obtain ⟨same, state, calls⟩ :=
    alike _ (sameWords_beside (· = before)) ⟨s, before⟩ s ⟨rfl, rfl⟩
  rw [run] at same state
  rw [List.append_nil]
  exact Prod.ext same (congrArg₂ Recorded.mk state calls)

end Gen

end MockSchema
