import MockSchema.Proofs.Conformance
import MockSchema.Proofs.Tape

/-!
# Draws from ranges

What can be drawn from a range are its members, each of them and nothing else, however far apart its bounds are
(`Range.draws_members`). The draw is computed on words of 64 bits, whose sums and products wrap around
(`sample64`); wherever the bounds are in order that comes to the same as counting the members of the interval
and picking one of them by its place (`between64_eq_sample64`).
-/

namespace MockSchema

namespace Random

open Gen

/-! ## Words that wrap around -/

/-- The high half of the product of two words. -/
def mulHigh (x y : UInt64) : UInt64 := UInt64.ofNat (x.toNat * y.toNat / 2 ^ 64)

theorem toNat_mulHigh (x y : UInt64) : (mulHigh x y).toNat = x.toNat * y.toNat / 2 ^ 64 := by
  have product : x.toNat * y.toNat < 2 ^ 64 * 2 ^ 64 := Nat.mul_lt_mul'' x.toNat_lt y.toNat_lt
  have half : x.toNat * y.toNat / 2 ^ 64 < 2 ^ 64 := Nat.div_lt_of_lt_mul product
  rw [mulHigh, UInt64.toNat_ofNat', Nat.mod_eq_of_lt half]

theorem ofNat_toNat (x : UInt64) : Int64.ofNat x.toNat = x.toInt64 := by
  rw [← UInt64.toInt64_ofNat', UInt64.ofNat_toNat]

/-- A sum that wraps around is less than its parts. -/
theorem add_lt_left_iff (x y : UInt64) : x + y < x ↔ 2 ^ 64 ≤ x.toNat + y.toNat := by
  have first := x.toNat_lt
  have second := y.toNat_lt
  rw [UInt64.lt_iff_toNat_lt, UInt64.toNat_add]
  omega

/-- The distance of two integers in order is no less than it would be without wrapping around. -/
theorem toNat_toUInt64_sub {low high : Int64} (order : low ≤ high) :
    ((high - low).toUInt64.toNat : Int) = high.toInt - low.toInt := by
  rw [Int64.le_iff_toInt_le] at order
  have least := low.le_toInt
  have greatest := high.toInt_lt
  have word := (high - low).toUInt64.toNat_lt
  have signed : (high - low).toInt = ((high - low).toUInt64.toNat : Int).bmod (2 ^ 64) :=
    BitVec.toInt_eq_toNat_bmod (high - low).toBitVec
  have same := congrArg (· % ((2 ^ 64 : Nat) : Int)) (signed.symm.trans (Int64.toInt_sub high low))
  simp only [Int.bmod_emod] at same
  omega

/-- The number of integers between two bounds. Zero stands for as many as there are words. -/
def span64 (low high : Int64) : UInt64 := (high - low).toUInt64 + 1

theorem toNat_span64 {low high : Int64} (order : low ≤ high) :
    (span64 low high).toNat = (high.toInt - low.toInt + 1).toNat % UInt64.size := by
  have distance := toNat_toUInt64_sub order
  rw [span64, UInt64.toNat_add, UInt64.toNat_one]
  simp only [UInt64.size]
  omega

theorem span64_eq_zero_iff {low high : Int64} (order : low ≤ high) :
    span64 low high = 0 ↔ (high.toInt - low.toInt + 1).toNat = UInt64.size := by
  have count := toNat_span64 order
  have least := low.le_toInt
  have greatest := high.toInt_lt
  rw [Int64.le_iff_toInt_le] at order
  rw [← UInt64.toNat_inj, count, UInt64.toNat_zero]
  simp only [UInt64.size]
  omega

variable {σ : Type} [RandomSource σ]

/-- An integer between two bounds from one word, and from a second one where the low half of the product does not
tell whether there is a carry. -/
def sample64 (low high : Int64) (s : σ) : Int64 × σ :=
  let range := span64 low high
  let (x, s') := RandomSource.next64 s
  if range = 0 then (x.toInt64, s')
  else if -range < x * range then
    let (y, s'') := RandomSource.next64 s'
    let carry : UInt64 := if x * range + mulHigh y range < x * range then 1 else 0
    (low + (mulHigh x range + carry).toInt64, s'')
  else (low + (mulHigh x range).toInt64, s')

/-! ## Both ways to compute a draw -/

section

variable {range : UInt64}

theorem needsSecond_eq (some : range ≠ 0) (x : UInt64) :
    needsSecond 64 range.toNat x.toNat = decide (-range < x * range) := by
  have positive : range.toNat ≠ 0 := fun zero => some (UInt64.toNat_inj.mp zero)
  have word : range.toNat < UInt64.size := range.toNat_lt
  have opposite : (-range).toNat = UInt64.size - range.toNat := by
    rw [UInt64.toNat_neg, Nat.mod_eq_of_lt (by omega)]
  rw [needsSecond, decide_eq_decide, UInt64.lt_iff_toNat_lt, UInt64.toNat_mul, opposite]

/-- The carry is a sum that wraps around; adding it does not, since the place is inside the range. -/
theorem reduce_eq (some : range ≠ 0) {x : UInt64} (asked : -range < x * range) (y : UInt64) :
    reduce 64 range.toNat x.toNat y.toNat =
      (mulHigh x range + if x * range + mulHigh y range < x * range then 1 else 0).toNat := by
  have positive : 0 < range.toNat := Nat.pos_of_ne_zero fun zero => some (UInt64.toNat_inj.mp zero)
  have inside : reduce 64 range.toNat x.toNat y.toNat < range.toNat :=
    reduce_lt y.toNat positive x.toNat_lt
  have low : 2 ^ 64 - range.toNat < x.toNat * range.toNat % 2 ^ 64 :=
    of_decide_eq_true ((needsSecond_eq some x).trans (decide_eq_true asked))
  have wraps : x * range + mulHigh y range < x * range ↔
      2 ^ 64 ≤ x.toNat * range.toNat % 2 ^ 64 + y.toNat * range.toNat / 2 ^ 64 := by
    rw [add_lt_left_iff, UInt64.toNat_mul, toNat_mulHigh]
  unfold reduce at inside ⊢
  simp only [Nat.pow_eq] at inside ⊢
  split at inside
  · next carry =>
    rw [if_pos carry, if_pos (wraps.mpr carry.2), UInt64.toNat_add, UInt64.toNat_one, toNat_mulHigh]
    exact (Nat.mod_eq_of_lt (Nat.lt_trans inside range.toNat_lt)).symm
  · next none =>
    have stays : ¬ x * range + mulHigh y range < x * range := fun wrap => none ⟨low, wraps.mp wrap⟩
    rw [if_neg none, if_neg stays, UInt64.add_zero, toNat_mulHigh]

end

/-- Where the bounds are in order, wrapping around does not matter. -/
theorem between64_eq_sample64 {low high : Int64} (order : low ≤ high) :
    (between64 low high : Gen σ Int64) = step (sample64 low high) := by
  have full := span64_eq_zero_iff order
  have count := toNat_span64 order
  unfold between64
  rw [if_neg (Int64.not_lt.mpr order)]
  dsimp only
  by_cases all : (high.toInt - low.toInt + 1).toNat = UInt64.size
  · rw [if_pos all]
    congr 1
    funext s
    simp only [sample64, if_pos (full.mpr all)]
  · rw [if_neg all]
    have some : span64 low high ≠ 0 := fun zero => all (full.mp zero)
    have same : (high.toInt - low.toInt + 1).toNat = (span64 low high).toNat := by
      have least := low.le_toInt
      have greatest := high.toInt_lt
      simp only [UInt64.size] at count all
      omega
    rw [same]
    congr 1
    funext s
    simp only [sample64, if_neg some, reduced, word64, needsSecond_eq some, decide_eq_true_eq]
    split
    · next asked =>
      simp only [reduce_eq some asked, ofNat_toNat]
    · next none =>
      have first := reduce_of_no_carry ((needsSecond_eq some _).trans (decide_eq_false none)) 0
      simp only [first, ← toNat_mulHigh, ofNat_toNat]

/-- The words of a source begin with the given one and a zero. -/
def Begins (word : UInt64) (s : σ) : Prop :=
  (RandomSource.next64 s).1 = word ∧ (RandomSource.next64 (RandomSource.next64 s).2).1 = 0

/-- A second word of zero leaves no carry, so the first one decides. -/
theorem reduced_of_begins {word : UInt64} {s : σ} (begins : Begins word s) (range : Nat) :
    (reduced 64 range word64 s).1 = reduce 64 range word.toNat (0 : UInt64).toNat := by
  obtain ⟨rfl, zero⟩ := begins
  simp only [reduced, word64, zero]
  split <;> rfl

/-- Every integer between two bounds is drawn from some word. -/
theorem exists_begins {low high n : Int64} (lower : low ≤ n) (upper : n ≤ high) :
    ∃ word : UInt64, ∀ s : σ, Begins word s → ((between64 low high).runFrom s).1 = .ok n := by
  unfold between64
  rw [if_neg (Int64.not_lt.mpr (Int64.le_trans lower upper))]
  dsimp only
  split
  · exact ⟨n.toUInt64, fun s begins => by simp [begins.1]⟩
  · obtain ⟨word, made⟩ := exists_word64 lower upper
    exact ⟨word, fun s begins => by rw [runFrom_step, reduced_of_begins begins, made]⟩

end Random

open MockSchema.Random

/-- What drawing from a range comes to. -/
structure Range.DrawsMembers (r : Range) : Prop where
  /-- The results over all sequences of words are the members of the range. -/
  results : ∀ n, (∃ (word : Nat → UInt64) (left : Stream),
    r.draw.runFrom (⟨word, 0⟩ : Stream) = (.ok n, left)) ↔ r.min ≤ n ∧ n ≤ r.max
  /-- There is a result from every random source, and it is a member. -/
  always : ∀ {σ : Type} [RandomSource σ] (s : σ), ∃ n left,
    r.draw.runFrom s = (.ok n, left) ∧ r.min ≤ n ∧ n ≤ r.max
  /-- From a range of one nothing is drawn. -/
  single : r.min = r.max → ∀ {σ : Type} [RandomSource σ] (s : σ), r.draw.runFrom s = (.ok r.min, s)
  /-- Otherwise the result is computed on words, and wrapping around does no harm. -/
  computed : r.min ≠ r.max → ∀ {σ : Type} [RandomSource σ] (s : σ),
    r.draw.runFrom s = (.ok (sample64 r.min r.max s).1, (sample64 r.min r.max s).2)

/-- Exactly the members of a range can be drawn from it, however far apart its bounds are. -/
theorem Range.draws_members (r : Range) : r.DrawsMembers where
  results n := by
    constructor
    · rintro ⟨word, left, drawn⟩
      exact r.draw_yields drawn
    · rintro ⟨lower, upper⟩
      unfold Range.draw
      split
      · next one =>
        have same : r.min = n := Int64.le_antisymm lower (one ▸ upper)
        exact ⟨fun _ => 0, _, by rw [Gen.runFrom_pure, same]⟩
      · obtain ⟨first, drawn⟩ : ∃ first, ∀ s : Stream, Begins first s →
            ((between64 r.min r.max).runFrom s).1 = .ok n := exists_begins lower upper
        exact ⟨fun i => if i = 0 then first else 0, _, Prod.ext (drawn _ ⟨rfl, rfl⟩) rfl⟩
  always := by
    intro σ source s
    obtain ⟨n, left, drawn, -⟩ := r.draw_total Gen.kept_true s trivial
    exact ⟨n, left, drawn, r.draw_yields drawn⟩
  single one := by
    intro σ source s
    rw [Range.draw, if_pos one, Gen.runFrom_pure]
  computed several := by
    intro σ source s
    rw [Range.draw, if_neg several, between64_eq_sample64 r.min_le_max, Gen.runFrom_step]

end MockSchema
