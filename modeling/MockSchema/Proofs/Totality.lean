import MockSchema.Proofs.PatternLanguage
import MockSchema.Proofs.Stalling

/-!
# Draws that cannot fail

`Total` says that a draw has a result from every state with a given property, and that the property is kept.
A single draw is total if its interval has members. Each law of results from `Draws` serves as the
postcondition that the next draw relies on, so a pattern that does not stall is total: whatever count,
member or branch is drawn, the one that is drawn next is from an interval with members too.
-/

namespace MockSchema

namespace Gen

variable {σ α β : Type}

/-- The draw has a result from every state of a kind, and leaves a state of that kind. -/
def Total (I : σ → Prop) (g : Gen σ α) : Prop :=
  ∀ s, I s → ∃ a s', g.runFrom s = (.ok a, s') ∧ I s'

/-- Taking words leads to states of the same kind. -/
structure Kept [RandomSource σ] (I : σ → Prop) : Prop where
  next32 : ∀ s, I s → I (RandomSource.next32 s).2
  next64 : ∀ s, I s → I (RandomSource.next64 s).2
  bytes : ∀ count s, I s → I (RandomSource.bytes count s).2

theorem kept_true [RandomSource σ] : Kept fun _ : σ => True :=
  ⟨fun _ _ => trivial, fun _ _ => trivial, fun _ _ _ => trivial⟩

section

variable {I : σ → Prop} {g : Gen σ α} {f : α → Gen σ β}

theorem total_pure (a : α) : Total I (pure a : Gen σ α) := fun s h => ⟨a, s, rfl, h⟩

theorem total_step {f : σ → α × σ} (kept : ∀ s, I s → I (f s).2) : Total I (step f) :=
  fun s h => ⟨(f s).1, (f s).2, rfl, kept s h⟩

/-- The second draw need only be total for the results that the first one can have. -/
theorem Total.bind {P : α → Prop} (hg : Total I g) (yields : g.Yields P)
    (hf : ∀ a, P a → Total I (f a)) : Total I (g >>= f) := by
  intro s h
  obtain ⟨a, s', run, h'⟩ := hg s h
  obtain ⟨b, s'', run', h''⟩ := hf a (yields run) s' h'
  exact ⟨b, s'', (runFrom_bind_eq_ok_iff ..).mpr ⟨a, s', run, run'⟩, h''⟩

theorem Total.then (hg : Total I g) (hf : ∀ a, Total I (f a)) : Total I (g >>= f) :=
  hg.bind (P := fun _ => True) (fun _ _ _ _ => trivial) fun a _ => hf a

theorem Total.map {f : α → β} (hg : Total I g) : Total I (do return f (← g)) :=
  hg.then fun _ => total_pure _

theorem Total.times (n : Nat) (hg : 0 < n → Total I g) : Total I (times g n) := by
  induction n with
  | zero => exact total_pure []
  | succ n ih => exact (hg n.succ_pos).then fun a => (ih fun _ => hg n.succ_pos).map

theorem total_each {γ : Type} {f : γ → Gen σ α} {cs : List γ} (h : ∀ c ∈ cs, Total I (f c)) :
    Total I (each f cs) := by
  induction cs with
  | nil => exact total_pure []
  | cons c rest ih =>
    obtain ⟨first, others⟩ := List.forall_mem_cons.mp h
    exact first.then fun a => (ih others).map

end

end Gen

namespace Random

open Gen

variable {σ : Type} {I : σ → Prop}

/-! ## Single draws -/

theorem reduced_kept {word : σ → Nat × σ} (words : ∀ s, I s → I (word s).2) (width range : Nat) (s : σ)
    (h : I s) : I (reduced width range word s).2 := by
  unfold reduced
  dsimp only
  split
  · exact words _ (words s h)
  · exact words s h

variable [RandomSource σ]

theorem below32_total (kept : Kept I) {range : Nat} (positive : 0 < range) :
    Total I (below32 range : Gen σ Nat) := by
  unfold below32
  rw [if_neg (by omega)]
  split
  · exact total_step kept.next32
  · exact total_step (reduced_kept kept.next32 32 range)

theorem belowLength_total (kept : Kept I) {length : Nat} (positive : 0 < length) :
    Total I (belowLength length : Gen σ Nat) := by
  unfold belowLength
  split
  · exact below32_total kept positive
  · exact total_step (reduced_kept kept.next64 64 length)

theorem between32_total (kept : Kept I) {low high : Nat} (order : low ≤ high) :
    Total I (between32 low high : Gen σ Nat) := by
  unfold between32
  rw [if_neg (by omega)]
  exact (below32_total kept (by omega)).map

theorem between64_total (kept : Kept I) {low high : Int64} (order : low ≤ high) :
    Total I (between64 low high : Gen σ Int64) := by
  unfold between64
  rw [if_neg (Int64.not_lt.mpr order)]
  dsimp only
  split
  · exact total_step kept.next64
  · exact total_step (reduced_kept kept.next64 64 _)

theorem chance_total (kept : Kept I) {p : Binary64} (probability : p.isProbability = true) :
    Total I (chance p : Gen σ Bool) := by
  unfold chance
  split
  · exact total_pure true
  · rw [if_neg (by simp [probability])]
    exact total_step fun s h => kept.next64 s h

theorem betweenFloats_total (kept : Kept I) {low high : Binary64} (order : low.le high = true)
    (finite : (high.sub low).isFinite = true) : Total I (betweenFloats low high : Gen σ Binary64) := by
  unfold betweenFloats
  rw [if_neg (by simp [order, finite])]
  exact total_step fun s h => kept.next64 s h

theorem pick_total {α : Type} (kept : Kept I) {members : List α} (some : members ≠ []) :
    Total I (pick members : Gen σ α) := by
  refine (belowLength_total kept (List.length_pos_iff.mpr some)).bind (belowLength_yields _)
    fun place inside => ?_
  rw [List.getElem?_eq_getElem inside]
  exact total_pure _

/-- A place that is drawn is one that some words lead to. -/
theorem belowLength_yields_canPick (length : Nat) :
    (belowLength length : Gen σ Nat).Yields (CanPick length) := by
  by_cases short : length ≤ UInt64.size
  · exact (belowLength_yields length).mono fun place inside => canPick short inside
  · have short32 : ¬ length ≤ UInt32.size := by
      simp only [UInt64.size, UInt32.size] at short ⊢
      omega
    unfold belowLength
    rw [if_neg short32]
    refine yields_step fun s => ⟨reduced_lt (by omega) word64_lt s, fun _ => ?_⟩
    unfold reduced
    dsimp only
    split
    · exact ⟨_, _, rfl⟩
    · exact ⟨_, 0, rfl⟩

end Random

/-! ## Patterns -/

namespace Pattern

open Gen

variable {σ : Type} [RandomSource σ] {I : σ → Prop}

theorem countBounds_order (settings : Settings) {counts : Counts} (wet : ¬ counts.IsDry) :
    (countBounds settings counts).1 ≤ (countBounds settings counts).2 := by
  have limit := settings.two_le_maxRepeat
  have word := counts.min.toNat_lt
  unfold Counts.IsDry at wet
  unfold countBounds
  rcases bound : counts.max with _ | m
  · simp only [bound, and_true] at wet
    dsimp only
    split
    · dsimp only
      omega
    · simp only [UInt32.size] at wet ⊢
      exact Nat.le_sub_of_add_le (Nat.le_min.mpr ⟨by omega, by omega⟩)
  · exact counts.ordered m bound

theorem drawCount_total (kept : Kept I) (settings : Settings) {counts : Counts}
    (wet : ¬ counts.IsDry) : Total I (drawCount settings counts : Gen σ Nat) := by
  unfold drawCount
  split
  · exact (Random.chance_total kept settings.isProbability).map
  · exact Random.between32_total kept (countBounds_order settings wet)

/-- A positive count is drawn only where there may be one. -/
theorem drawCount_yields_mayRepeat (settings : Settings) (counts : Counts) :
    (drawCount settings counts : Gen σ Nat).Yields fun n => 0 < n → counts.MayRepeat settings := by
  by_cases part : counts = .optional
  · subst part
    unfold drawCount Counts.MayRepeat
    rw [if_pos rfl, if_pos rfl]
    refine (Random.chance_yields settings.optionalProbability).map fun b drawn positive => ?_
    cases b with
    | true => exact drawn
    | false => exact absurd positive (by decide)
  · refine (drawCount_yields settings counts).mono fun n member positive => ?_
    have allowed := Counts.drawn_subset_allowed settings counts member
    unfold Counts.MayRepeat
    rw [if_neg part]
    intro none
    have most := allowed.2 0 none
    simp at most
    omega

theorem drawMember_total (kept : Kept I) {set : CharSet} :
    Total I (drawMember set : Gen σ (List Char)) := by
  unfold drawMember
  split
  · exact total_pure []
  · exact (Random.below32_total kept (by omega)).map

namespace Expr

mutual

theorem sample_total (kept : Kept I) (settings : Settings) : ∀ e : Expr, e.Formed →
    ¬ e.Stalls settings → Total I (e.sample settings : Gen σ (List Char))
  | .empty, _, _ => total_pure []
  | .look _, _, _ => total_pure []
  | .literal s, _, _ => total_pure s
  | .class _ set, _, _ => drawMember_total kept
  | .repetition counts _ sub, formed, runs => by
    obtain ⟨wet, inside⟩ := not_or.mp runs
    refine (drawCount_total kept settings wet).bind (drawCount_yields_mayRepeat settings counts)
      fun n positive => (Total.times n fun some => ?_).map
    exact sample_total kept settings sub formed fun stalls => inside ⟨positive some, stalls⟩
  | .capture _ _ sub, formed, runs => sample_total kept settings sub formed runs
  | .concat parts, formed, runs => sampleAll_total kept settings parts formed runs
  | .alternation [], formed, _ => absurd rfl formed.1
  | .alternation (e :: rest), formed, runs => by
    refine (Random.belowLength_total kept (Nat.succ_pos _)).bind (Random.belowLength_yields_canPick _)
      fun place picked => ?_
    exact sampleAt_total kept settings (e :: rest) place formed.2
      fun stalls => runs ⟨place, picked, stalls⟩

theorem sampleAll_total (kept : Kept I) (settings : Settings) : ∀ es : List Expr, AreFormed es →
    ¬ OneStalls settings es → Total I (sampleAll settings es : Gen σ (List Char))
  | [], _, _ => total_pure []
  | e :: rest, formed, runs => by
    obtain ⟨first, others⟩ := not_or.mp runs
    exact (sample_total kept settings e formed.1 first).then
      fun s => (sampleAll_total kept settings rest formed.2 others).map

theorem sampleAt_total (kept : Kept I) (settings : Settings) : ∀ (es : List Expr) (place : Nat),
    AreFormed es → ¬ StallsAt settings es place →
    Total I (sampleAt settings es place : Gen σ (List Char))
  | [], _, _, _ => total_pure []
  | e :: _, 0, formed, runs => sample_total kept settings e formed.1 runs
  | _ :: rest, place + 1, formed, runs => sampleAt_total kept settings rest place formed.2 runs

end

end Expr

theorem draw_total (kept : Kept I) {p : Pattern} (formed : p.expr.Formed) (runs : ¬ p.Stalls) :
    Total I (p.draw : Gen σ String) :=
  (p.expr.sample_total kept p.settings formed runs).map

end Pattern

/-! ## Schemas -/

section

open Gen

variable {σ : Type} [RandomSource σ] {I : σ → Prop}

theorem Range.draw_total (kept : Kept I) (r : Range) : Total I (r.draw : Gen σ Int64) := by
  unfold Range.draw
  split
  · exact total_pure _
  · exact Random.between64_total kept r.min_le_max

theorem drawLength_total (kept : Kept I) (length : Option Range) :
    Total I (drawLength length : Gen σ Nat) := by
  cases length with
  | none => exact total_pure 1
  | some r => exact (r.draw_total kept).map

end

end MockSchema
