import MockSchema.Proofs.Rounding
import MockSchema.Proofs.Tape

/-!
# Draws of booleans

A boolean is drawn by comparing a word with a probability that is scaled to words. The outcome can be true exactly
if the probability is at least the share of a single word among all words, which is `2 ^ -64`, and it can be false
exactly if the probability is less than one (`chance_yields_allowed`, `chance_reaches_allowed`).
-/

namespace MockSchema

namespace Binary64

/-- The share of one word among all words. -/
def wordShare : Binary64 := ofDyadic false 1 (-64)

section

variable {p : Binary64}

/-- The exponent counts the binades in the magnitude; a significand is only short in the lowest of them. -/
theorem magnitude_bounds (p : Binary64) :
    p.magnitude = (p.exponent + 1074).toNat * 2 ^ 52 + p.significand ∧ p.significand < 2 ^ 53 ∧
      -1074 ≤ p.exponent ∧ (-1074 < p.exponent → 2 ^ 52 ≤ p.significand) :=
  ⟨magnitude_eq p, significand_lt p, exponent_ge p, fun above => fractionSize_le_significand above⟩

/-- Scaled to words, a number is at least one exactly if it is not below the share of a word. -/
theorem floorScaled_pos_iff : 0 < p.floorScaled 64 ↔ wordShare.magnitude ≤ p.magnitude := by
  have share : wordShare.magnitude = 959 * 2 ^ 52 := by decide
  obtain ⟨split, most, least, full⟩ := magnitude_bounds p
  unfold floorScaled
  simp only [Nat.cast_ofNat]
  constructor
  · intro some
    by_contra below
    -- below the share at least 53 binary digits are cut off, which are all that a significand has
    have small : p.exponent + 64 ≤ -53 := by omega
    have power : 2 ^ 53 ≤ Nat.pow 2 (-(p.exponent + 64)).toNat := Nat.pow_le_pow_right (by decide) (by omega)
    rw [if_neg (by omega), Nat.div_eq_of_lt (by omega)] at some
    exact absurd some (Nat.lt_irrefl 0)
  · intro reached
    have large : -52 ≤ p.exponent + 64 := by omega
    have digits : 2 ^ 52 ≤ p.significand := full (by omega)
    split
    · exact Nat.mul_pos (by omega) (Nat.two_pow_pos _)
    · have power : Nat.pow 2 (-(p.exponent + 64)).toNat ≤ 2 ^ 52 := Nat.pow_le_pow_right (by decide) (by omega)
      exact Nat.div_pos (power.trans digits) (Nat.two_pow_pos _)

/-- Scaled to words, a number below one is a word. -/
theorem floorScaled_lt (below : p.magnitude < one.magnitude) : p.floorScaled 64 < 2 ^ 64 := by
  have certain : one.magnitude = 1023 * 2 ^ 52 := by decide
  obtain ⟨split, most, least, full⟩ := magnitude_bounds p
  have small : p.exponent + 64 ≤ 11 := by omega
  unfold floorScaled
  simp only [Nat.cast_ofNat]
  split
  · have power : Nat.pow 2 (p.exponent + 64).toNat ≤ 2 ^ 11 := Nat.pow_le_pow_right (by decide) (by omega)
    calc p.significand * Nat.pow 2 (p.exponent + 64).toNat
        ≤ p.significand * 2 ^ 11 := Nat.mul_le_mul_left _ power
      _ < 2 ^ 64 := by omega
  · have part := Nat.div_le_self p.significand (Nat.pow 2 (-(p.exponent + 64)).toNat)
    omega

/-! ## Probabilities -/

/-- A probability is its magnitude: it is no NaN, and it is not negative unless it is zero. -/
theorem orderKey_of_isProbability (probability : p.isProbability = true) :
    p.isNaN = false ∧ p.orderKey = p.magnitude ∧ p.magnitude ≤ one.magnitude := by
  have zero : Binary64.zero.orderKey = 0 := by decide
  have certain : one.orderKey = one.magnitude := by decide
  simp only [isProbability, le, Bool.and_eq_true, Bool.not_eq_true', decide_eq_true_eq] at probability
  obtain ⟨⟨⟨-, number⟩, positive⟩, -, most⟩ := probability
  rw [zero] at positive
  rw [certain] at most
  have same : p.orderKey = p.magnitude := by
    unfold orderKey at positive ⊢
    split at positive
    · next negative =>
      rw [if_pos negative]
      omega
    · next other => rw [if_neg other]
  exact ⟨number, same, by omega⟩

/-- Of the probabilities only one itself has its magnitude. -/
theorem eq_one_of_magnitude (probability : p.isProbability = true) (certain : p.magnitude = one.magnitude) :
    p = one := by
  obtain ⟨-, same, -⟩ := orderKey_of_isProbability probability
  have weight : signWeight = 2 ^ 63 := rfl
  have positive : one.magnitude = 1023 * 2 ^ 52 ∧ one.bits.toNat = 1023 * 2 ^ 52 := by decide
  have small : p.bits.toNat < signWeight := by
    by_contra large
    have negative : p.isNegative = true := decide_eq_true (by omega)
    rw [orderKey, if_pos negative] at same
    omega
  rw [magnitude, Nat.mod_eq_of_lt small] at certain
  have bits : p.bits = one.bits := UInt64.toNat_inj.mp (by omega)
  cases p
  exact congrArg Binary64.mk bits

/-- The outcomes that a probability leaves open: true from the share of a single word on, false below one. -/
def Allows (p : Binary64) : Bool → Prop
  | true => wordShare.le p = true
  | false => p.lt one = true

instance (p : Binary64) : ∀ b, Decidable (p.Allows b)
  | true => inferInstanceAs (Decidable (wordShare.le p = true))
  | false => inferInstanceAs (Decidable (p.lt one = true))

section

variable (probability : p.isProbability = true)
include probability

theorem allows_true_iff : p.Allows true ↔ 0 < p.floorScaled 64 := by
  obtain ⟨number, same, -⟩ := orderKey_of_isProbability probability
  have share : wordShare.isNaN = false ∧ wordShare.orderKey = wordShare.magnitude := by decide
  rw [floorScaled_pos_iff]
  simp [Allows, le, number, same, share]

theorem allows_false_iff : p.Allows false ↔ p.magnitude < one.magnitude := by
  obtain ⟨number, same, -⟩ := orderKey_of_isProbability probability
  have certain : one.isNaN = false ∧ one.orderKey = one.magnitude := by decide
  simp [Allows, lt, number, same, certain]

end

/-- Below the share of a word even a positive weight allows nothing but false. -/
example : zero.lt ⟨1⟩ ∧ ¬ Allows ⟨1⟩ true ∧ Allows ⟨1⟩ false := by decide

/-- Certainty allows nothing but true. -/
theorem allows_of_same_one (certain : p.same one = true) (b : Bool) : p.Allows b ↔ b = true := by
  have key : wordShare.isNaN = false ∧ one.isNaN = false ∧ wordShare.orderKey ≤ one.orderKey := by decide
  simp only [same, Bool.and_eq_true, Bool.not_eq_true', beq_iff_eq] at certain
  obtain ⟨⟨number, -⟩, equal⟩ := certain
  cases b <;> simp [Allows, le, lt, number, equal, key]

/-- Impossibility allows nothing but false. -/
theorem allows_of_same_zero (impossible : p.same zero = true) (b : Bool) : p.Allows b ↔ b = false := by
  have key : one.isNaN = false ∧ zero.orderKey < one.orderKey ∧ zero.orderKey < wordShare.orderKey := by decide
  simp only [same, Bool.and_eq_true, Bool.not_eq_true', beq_iff_eq] at impossible
  obtain ⟨⟨number, -⟩, equal⟩ := impossible
  cases b <;> simp [Allows, le, lt, number, equal, key]

end

end Binary64

/-! ## Outcomes -/

namespace Random

open Gen

variable {σ : Type} [RandomSource σ] {p : Binary64}

theorem chance_yields_allowed (probability : p.isProbability = true) :
    (chance p : Gen σ Bool).Yields p.Allows := by
  refine (chance_yields p).mono fun b drawn => ?_
  cases b with
  | true => exact (Binary64.allows_true_iff probability).mpr drawn
  | false =>
    obtain ⟨-, -, most⟩ := Binary64.orderKey_of_isProbability probability
    refine (Binary64.allows_false_iff probability).mpr (Nat.lt_of_le_of_ne most fun certain => ?_)
    exact drawn (Binary64.eq_one_of_magnitude probability certain)

/-- The word zero leads to true and the last word to false, where a probability allows these. -/
theorem chance_reaches_allowed {tape : List UInt64 → σ} (reads : IsTape tape)
    (probability : p.isProbability = true) {b : Bool} (allowed : p.Allows b) :
    Reaches tape (chance p) b := by
  cases b with
  | true =>
    have reached := chance_reaches reads probability
    rwa [decide_eq_true ((Binary64.allows_true_iff probability).mp allowed)] at reached
  | false =>
    have below := (Binary64.allows_false_iff probability).mp allowed
    have word := Binary64.floorScaled_lt below
    have uncertain : p ≠ .one := by
      rintro rfl
      exact Nat.lt_irrefl _ below
    -- certainty apart, every probability scaled to words is at most the last word
    unfold chance
    rw [if_neg uncertain, if_neg (by simp [probability])]
    refine reaches_step fun rest => ⟨UInt64.ofNat (2 ^ 64 - 1) :: rest, ?_⟩
    rw [word64_tape reads, UInt64.toNat_ofNat_of_lt' (by decide)]
    exact congrArg (·, tape rest) (decide_eq_false (by omega))

end Random

end MockSchema
