import Mathlib.Algebra.Group.Nat.Defs
import Mathlib.Tactic.ByContra
import MockSchema.Random.Gen

/-!
# What draws give

The run of a draw is taken apart into the runs of its parts (`runFrom_bind_eq_ok_iff`). `Yields` says what
holds of every result a draw can have, from whatever state; the laws of the single draws follow, and each
of them is an interval: the reduction of one or two words never leaves its range (`reduce_lt`).
-/

namespace MockSchema

namespace Gen

variable {σ α β : Type}

/-! ## Runs -/

@[simp] theorem runFrom_pure (a : α) (s : σ) : (pure a : Gen σ α).runFrom s = (.ok a, s) := rfl

@[simp] theorem runFrom_step (f : σ → α × σ) (s : σ) :
    (step f).runFrom s = (.ok (f s).1, (f s).2) := rfl

@[simp] theorem runFrom_fail (e : Failure) (s : σ) :
    (fail e : Gen σ α).runFrom s = (.error e, s) := rfl

/-- A draw after another one runs from the state that the other one leaves; a failure ends both. -/
theorem runFrom_bind (g : Gen σ α) (f : α → Gen σ β) (s : σ) :
    (g >>= f).runFrom s =
      match g.runFrom s with
      | (.ok a, s') => (f a).runFrom s'
      | (.error e, s') => (.error e, s') := by
  change ExceptT.bindCont f (g s).1 (g s).2 = _
  cases run : g s with
  | mk result s' =>
    rw [show g.runFrom s = (result, s') from run]
    cases result <;> rfl

theorem runFrom_bind_eq_ok_iff (g : Gen σ α) (f : α → Gen σ β) (s s'' : σ) (b : β) :
    (g >>= f).runFrom s = (.ok b, s'') ↔
      ∃ a s', g.runFrom s = (.ok a, s') ∧ (f a).runFrom s' = (.ok b, s'') := by
  rw [runFrom_bind]
  rcases g.runFrom s with ⟨_ | a, s'⟩
  · simp
  · simp only [Prod.mk.injEq, Except.ok.injEq]
    constructor
    · exact fun run => ⟨a, s', ⟨rfl, rfl⟩, run⟩
    · rintro ⟨_, _, ⟨rfl, rfl⟩, run⟩
      exact run

/-! ## Laws of results -/

/-- Whatever state a draw starts from, its result satisfies the condition if there is one. -/
def Yields (g : Gen σ α) (P : α → Prop) : Prop :=
  ∀ ⦃s a s'⦄, g.runFrom s = (.ok a, s') → P a

theorem Yields.mono {g : Gen σ α} {P Q : α → Prop} (h : g.Yields P) (imp : ∀ a, P a → Q a) :
    g.Yields Q :=
  fun _ a _ run => imp a (h run)

theorem yields_pure {a : α} {P : α → Prop} (h : P a) : (pure a : Gen σ α).Yields P := by
  intro s b s' run
  cases run
  exact h

theorem yields_fail (e : Failure) (P : α → Prop) : (fail e : Gen σ α).Yields P := by
  intro s a s' run
  cases run

theorem yields_step {f : σ → α × σ} {P : α → Prop} (h : ∀ s, P (f s).1) : (step f).Yields P := by
  intro s a s' run
  cases run
  exact h s

theorem Yields.bind {g : Gen σ α} {f : α → Gen σ β} {P : α → Prop} {Q : β → Prop}
    (hg : g.Yields P) (hf : ∀ a, P a → (f a).Yields Q) : (g >>= f).Yields Q := by
  intro s b s'' run
  obtain ⟨a, s', first, second⟩ := (runFrom_bind_eq_ok_iff ..).mp run
  exact hf a (hg first) second

/-- A draw whose result is put into a function. -/
theorem Yields.map {g : Gen σ α} {f : α → β} {P : α → Prop} {Q : β → Prop} (hg : g.Yields P)
    (hf : ∀ a, P a → Q (f a)) : (do return f (← g) : Gen σ β).Yields Q :=
  hg.bind fun a h => yields_pure (hf a h)

/-- Repeating a draw gives as many results as asked for, each of them one of the draw. -/
theorem Yields.times {g : Gen σ α} {P : α → Prop} (hg : g.Yields P) (n : Nat) :
    (times g n).Yields fun as => as.length = n ∧ ∀ a ∈ as, P a := by
  induction n with
  | zero => exact yields_pure ⟨rfl, by simp⟩
  | succ n ih =>
    refine hg.bind fun a ha => ih.bind fun as has => yields_pure ⟨by simp [has.1], ?_⟩
    simpa [ha] using has.2

end Gen

namespace Random

variable {σ : Type}

open Gen

/-! ## Single draws -/

/-- A word is reduced to a number below the range, with the carry too: where the range ends, the low half
of the product is so far down that no carry is looked for. -/
theorem reduce_lt {width range first : Nat} (second : Nat) (positive : 0 < range)
    (word : first < 2 ^ width) : reduce width range first second < range := by
  unfold reduce
  simp only [Nat.pow_eq]
  generalize 2 ^ width = modulus at word
  have split : modulus * (first * range / modulus) + first * range % modulus = first * range :=
    Nat.div_add_mod ..
  have top : first * range + range ≤ modulus * range := by
    rw [← Nat.succ_mul]
    exact Nat.mul_le_mul_right range word
  have high : first * range / modulus < range := by
    rw [Nat.div_lt_iff_lt_mul (by omega), Nat.mul_comm range]
    omega
  split
  · next carry =>
    by_contra excess
    have last : modulus * range = modulus * (first * range / modulus) + modulus := by
      rw [← Nat.mul_succ]
      congr 1
      omega
    omega
  · exact high

theorem reduced_lt {width range : Nat} (positive : 0 < range) {word : σ → Nat × σ}
    (words : ∀ s, (word s).1 < 2 ^ width) (s : σ) : (reduced width range word s).1 < range := by
  unfold reduced
  dsimp only
  split
  · exact reduce_lt _ positive (words s)
  · exact reduce_lt _ positive (words s)

variable [RandomSource σ]

theorem word32_lt (s : σ) : (word32 s).1 < 2 ^ 32 := (RandomSource.next32 s).1.toNat_lt

theorem word64_lt (s : σ) : (word64 s).1 < 2 ^ 64 := (RandomSource.next64 s).1.toNat_lt

theorem below32_yields (range : Nat) : (below32 range : Gen σ Nat).Yields (· < range) := by
  unfold below32
  split
  · exact yields_fail ..
  · next positive =>
    split
    · next all => exact yields_step fun s => all ▸ word32_lt s
    · exact yields_step fun s => reduced_lt (Nat.pos_of_ne_zero positive) word32_lt s

theorem belowLength_yields (length : Nat) :
    (belowLength length : Gen σ Nat).Yields (· < length) := by
  unfold belowLength
  split
  · exact below32_yields length
  · next long => exact yields_step fun s => reduced_lt (by omega) word64_lt s

theorem between32_yields (low high : Nat) :
    (between32 low high : Gen σ Nat).Yields fun n => low ≤ n ∧ n ≤ high := by
  unfold between32
  split
  · exact yields_fail ..
  · exact (below32_yields _).map fun n below => by omega

/-- Shifting a number below the size of an interval by its lower bound stays in the interval, although
the number may be no integer by itself and the sum wraps around then. -/
theorem toInt_add_ofNat (low high : Int64) {n : Nat} (below : (n : Int) ≤ high.toInt - low.toInt) :
    (low + Int64.ofNat n).toInt = low.toInt + n := by
  have least := low.le_toInt
  have greatest := high.toInt_lt
  rw [Int64.toInt_add, Int64.toInt_ofNat', Int64.size, Int.add_bmod_bmod]
  exact Int.bmod_eq_of_le (by omega) (by omega)

theorem between64_yields (low high : Int64) :
    (between64 low high : Gen σ Int64).Yields fun n => low ≤ n ∧ n ≤ high := by
  simp only [Int64.le_iff_toInt_le]
  unfold between64
  split
  · exact yields_fail ..
  · next order =>
    have order : low.toInt ≤ high.toInt := Int64.le_iff_toInt_le.mp (Int64.not_lt.mp order)
    dsimp only
    split
    · next all =>
      have least := low.le_toInt
      have greatest := high.toInt_lt
      refine yields_step fun s => ?_
      have above := ((RandomSource.next64 s).1.toInt64).le_toInt
      have below := ((RandomSource.next64 s).1.toInt64).toInt_lt
      simp only [UInt64.size] at all
      dsimp only
      omega
    · refine yields_step fun s => ?_
      have positive : 0 < (high.toInt - low.toInt + 1).toNat := by omega
      have below := reduced_lt positive word64_lt s
      dsimp only
      rw [toInt_add_ofNat low high (by omega)]
      omega

/-- The outcome is true only if there is a word below the scaled probability, and false only if it is not certain. -/
theorem chance_yields (p : Binary64) :
    (chance p : Gen σ Bool).Yields fun b => if b = true then 0 < p.floorScaled 64 else p ≠ .one := by
  unfold chance
  split
  · next certain =>
    subst certain
    exact yields_pure (by decide)
  · next uncertain =>
    split
    · exact yields_fail ..
    · refine yields_step fun s => ?_
      dsimp only
      split
      · next below => exact Nat.zero_lt_of_lt (of_decide_eq_true below)
      · exact uncertain

theorem pick_yields {α : Type} (members : List α) :
    (pick members : Gen σ α).Yields (· ∈ members) := by
  refine (belowLength_yields _).bind fun i below => ?_
  rw [List.getElem?_eq_getElem below]
  exact yields_pure (List.getElem_mem below)

end Random

end MockSchema
