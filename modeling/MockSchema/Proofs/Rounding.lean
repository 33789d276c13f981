import Mathlib.Algebra.Order.Field.Power
import Mathlib.Data.Rat.Cast.Order
import Mathlib.Tactic.FieldSimp
import Mathlib.Tactic.Linarith
import Mathlib.Tactic.Positivity
import Mathlib.Tactic.Ring
import MockSchema.Binary64.Shortest

/-!
# Rounding to the nearest number

A quotient in the interval of a finite number is rounded to that number (`ofRatio_eq_of_near`). The order of a
quotient decides on the exponent, and the quotient in units of that exponent is rounded to the significand. The
one exception is below a power of two, where the order is one less and the significand twice as large.
-/

namespace MockSchema.Binary64

/-! ## Quotients -/

/-- What lies within half a unit of an integer is rounded to it, at the very ends only if it is even. -/
theorem roundDiv_eq {num den n : Nat} (positive : 0 < den) (low : 2 * (n * den) ≤ 2 * num + den)
    (high : 2 * num ≤ 2 * (n * den) + den)
    (ends : n % 2 = 0 ∨ 2 * (n * den) < 2 * num + den ∧ 2 * num < 2 * (n * den) + den) :
    roundDiv num den = n := by
  have whole : num / den * den + num % den = num := Nat.div_add_mod' num den
  have rest : num % den < den := Nat.mod_lt num positive
  have atLeast : num / den ≤ n := by
    by_contra above
    have more : (n + 1) * den ≤ num / den * den := Nat.mul_le_mul_right den (by omega)
    rw [Nat.succ_mul] at more
    omega
  have atMost : n ≤ num / den + 1 := by
    by_contra above
    have more : (num / den + 1 + 1) * den ≤ n * den := Nat.mul_le_mul_right den (by omega)
    rw [Nat.succ_mul, Nat.succ_mul] at more
    omega
  unfold roundDiv
  dsimp only
  rcases Nat.eq_or_lt_of_le atLeast with same | above
  · rw [same] at whole
    split
    · exact same
    split
    · omega
    · rw [if_pos (by omega)]
      exact same
  · have next : n = num / den + 1 := by omega
    have more : n * den = num / den * den + den := by rw [next, Nat.succ_mul]
    split
    · omega
    split
    · exact next.symm
    · rw [if_neg (by omega)]
      exact next.symm

/-- The same for a quotient of integers. -/
theorem roundDiv_eq_of_near {num den n : Nat} {t : ℚ} (positive : 0 < den) (quotient : (num : ℚ) / den = t)
    (low : n - 1 / 2 ≤ t) (high : t ≤ n + 1 / 2)
    (ends : n % 2 = 0 ∨ n - 1 / 2 < t ∧ t < n + 1 / 2) : roundDiv num den = n := by
  have positive' : (0 : ℚ) < den := by exact_mod_cast positive
  have product : (num : ℚ) = t * den := by rw [← quotient, div_mul_cancel₀ _ positive'.ne']
  have scaleLow : (n - 1 / 2) * (den : ℚ) ≤ num := by
    rw [product]
    exact mul_le_mul_of_nonneg_right low positive'.le
  have scaleHigh : (num : ℚ) ≤ (n + 1 / 2) * den := by
    rw [product]
    exact mul_le_mul_of_nonneg_right high positive'.le
  refine roundDiv_eq positive ?_ ?_ ?_
  · have : (2 * (n * den) : ℚ) ≤ 2 * num + den := by linarith
    exact_mod_cast this
  · have : (2 * num : ℚ) ≤ 2 * (n * den) + den := by linarith
    exact_mod_cast this
  · refine ends.imp_right fun strict => ⟨?_, ?_⟩
    · have scaled : (n - 1 / 2) * (den : ℚ) < num := by
        rw [product]
        exact mul_lt_mul_of_pos_right strict.1 positive'
      have : (2 * (n * den) : ℚ) < 2 * num + den := by linarith
      exact_mod_cast this
    · have scaled : (num : ℚ) < (n + 1 / 2) * den := by
        rw [product]
        exact mul_lt_mul_of_pos_right strict.2 positive'
      have : (2 * num : ℚ) < 2 * (n * den) + den := by linarith
      exact_mod_cast this

/-! ## Powers -/

/-- A power with an integer exponent as a quotient of natural numbers, one of which is one. -/
theorem zpow_eq_div (b : Nat) (positive : 0 < b) (e : Int) :
    (b : ℚ) ^ e = (Nat.pow b e.toNat : Nat) / (Nat.pow b (-e).toNat : Nat) := by
  have nonzero : (b : ℚ) ≠ 0 := by exact_mod_cast positive.ne'
  change _ = ((b ^ e.toNat : Nat) : ℚ) / ((b ^ (-e).toNat : Nat) : ℚ)
  push_cast
  rw [← zpow_natCast, ← zpow_natCast, ← zpow_sub₀ nonzero]
  congr 1
  omega

/-- Which power of two a quotient reaches. -/
theorem reaches_iff {num den : Nat} (positive : 0 < den) (k : Int) :
    (if 0 ≤ k then den * Nat.pow 2 k.toNat ≤ num else den ≤ num * Nat.pow 2 (-k).toNat) ↔
      (2 : ℚ) ^ k ≤ num / den := by
  have positive' : (0 : ℚ) < den := by exact_mod_cast positive
  rw [le_div_iff₀ positive', show (2 : ℚ) = (2 : Nat) from rfl, zpow_eq_div 2 (by decide)]
  split
  · next nonneg =>
    rw [show (-k).toNat = 0 by omega, show Nat.pow 2 0 = 1 from rfl, Nat.cast_one, div_one, mul_comm]
    norm_cast
  · next negative =>
    have power : (0 : ℚ) < (Nat.pow 2 (-k).toNat : Nat) := by exact_mod_cast Nat.two_pow_pos _
    rw [show k.toNat = 0 by omega, show Nat.pow 2 0 = 1 from rfl, Nat.cast_one, div_mul_eq_mul_div,
      one_mul, div_le_iff₀ power]
    norm_cast

/-- The order of a positive quotient is the greatest power of two that it reaches. -/
theorem order_spec {num den : Nat} (some : 0 < num) (positive : 0 < den) :
    (2 : ℚ) ^ order num den ≤ num / den ∧ (num : ℚ) / den < 2 ^ (order num den + 1) := by
  have positive' : (0 : ℚ) < den := by exact_mod_cast positive
  have numLow : (2 : ℚ) ^ (num.log2 : Int) ≤ num := by
    rw [zpow_natCast]
    exact_mod_cast Nat.log2_self_le some.ne'
  have numHigh : (num : ℚ) < 2 ^ ((num.log2 : Int) + 1) := by
    have := Nat.lt_log2_self (n := num)
    exact_mod_cast this
  have denLow : (2 : ℚ) ^ (den.log2 : Int) ≤ den := by
    rw [zpow_natCast]
    exact_mod_cast Nat.log2_self_le positive.ne'
  have denHigh : (den : ℚ) < 2 ^ ((den.log2 : Int) + 1) := by
    have := Nat.lt_log2_self (n := den)
    exact_mod_cast this
  have two : (2 : ℚ) ≠ 0 := two_ne_zero
  -- the difference of the logarithms is the order, or one more than it
  by_cases reached : (2 : ℚ) ^ ((num.log2 : Int) - den.log2) ≤ num / den
  · have same : order num den = (num.log2 : Int) - den.log2 :=
      if_pos ((reaches_iff positive _).mpr reached)
    rw [same]
    refine ⟨reached, ?_⟩
    rw [div_lt_iff₀ positive']
    calc (num : ℚ) < 2 ^ ((num.log2 : Int) + 1) := numHigh
      _ = 2 ^ ((num.log2 : Int) - den.log2 + 1) * 2 ^ (den.log2 : Int) := by
        rw [← zpow_add₀ two]
        congr 1
        omega
      _ ≤ 2 ^ ((num.log2 : Int) - den.log2 + 1) * den :=
        mul_le_mul_of_nonneg_left denLow (zpow_nonneg zero_le_two _)
  · have less : order num den = (num.log2 : Int) - den.log2 - 1 :=
      if_neg fun reaches => reached ((reaches_iff positive _).mp reaches)
    rw [less]
    constructor
    · rw [le_div_iff₀ positive']
      calc (2 : ℚ) ^ ((num.log2 : Int) - den.log2 - 1) * den
          ≤ 2 ^ ((num.log2 : Int) - den.log2 - 1) * 2 ^ ((den.log2 : Int) + 1) :=
            mul_le_mul_of_nonneg_left denHigh.le (zpow_nonneg zero_le_two _)
        _ = 2 ^ (num.log2 : Int) := by
          rw [← zpow_add₀ two]
          congr 1
          omega
        _ ≤ num := numLow
    · rw [sub_add_cancel]
      exact not_le.mp reached

theorem le_order {num den : Nat} (some : 0 < num) (positive : 0 < den) {k : Int}
    (reached : (2 : ℚ) ^ k ≤ num / den) : k ≤ order num den := by
  have inside := reached.trans_lt (order_spec some positive).2
  have := (zpow_lt_zpow_iff_right₀ one_lt_two).mp inside
  omega

theorem order_le {num den : Nat} (some : 0 < num) (positive : 0 < den) {k : Int}
    (below : (num : ℚ) / den < 2 ^ (k + 1)) : order num den ≤ k := by
  have inside := (order_spec some positive).1.trans_lt below
  have := (zpow_lt_zpow_iff_right₀ one_lt_two).mp inside
  omega

/-! ## The nearest number -/

/-- A quotient near an integer number of units of the exponent that it has, or that the smallest numbers have,
is rounded to that number of units. -/
theorem ofRatio_eq {num den n : Nat} {e : Int} (negative : Bool) (some : 0 < num) (positive : 0 < den)
    (unit : max (order num den - 52) (-1074) = e) (low : n - 1 / 2 ≤ (num : ℚ) / den / 2 ^ e)
    (high : (num : ℚ) / den / 2 ^ e ≤ n + 1 / 2)
    (ends : n % 2 = 0 ∨ n - 1 / 2 < (num : ℚ) / den / 2 ^ e ∧ (num : ℚ) / den / 2 ^ e < n + 1 / 2) :
    ofRatio negative num den =
      ofMagnitude negative (min ((e + 1074).toNat * fractionSize + n) infinityMagnitude) := by
  have scale : (2 : ℚ) ^ e = (Nat.pow 2 e.toNat : Nat) / (Nat.pow 2 (-e).toNat : Nat) :=
    zpow_eq_div 2 (by decide) e
  have power (k : Nat) : 0 < Nat.pow 2 k := Nat.two_pow_pos k
  rw [ofRatio, if_neg some.ne']
  dsimp only
  rw [unit]
  congr 3
  split
  · next nonneg =>
    refine roundDiv_eq_of_near (Nat.mul_pos positive (power _)) ?_ low high ends
    rw [scale, show (-e).toNat = 0 by omega, show Nat.pow 2 0 = 1 from rfl, Nat.cast_one, div_one,
      Nat.cast_mul, div_div]
  · next negative =>
    refine roundDiv_eq_of_near positive ?_ low high ends
    rw [scale, show e.toNat = 0 by omega, show Nat.pow 2 0 = 1 from rfl, Nat.cast_one, one_div,
      div_inv_eq_mul, Nat.cast_mul, div_mul_eq_mul_div]

/-! ## The interval of a number -/

theorem fractionField_lt (x : Binary64) : x.fractionField < fractionSize := Nat.mod_lt _ (by decide)

/-- The magnitude counts units of the exponent, from the first one of the smallest numbers on. -/
theorem magnitude_eq (x : Binary64) :
    x.magnitude = (x.exponent + 1074).toNat * fractionSize + x.significand := by
  have whole : x.exponentField * fractionSize + x.fractionField = x.magnitude :=
    Nat.div_add_mod' x.magnitude fractionSize
  unfold exponent significand
  split
  · next smallest =>
    rw [smallest] at whole ⊢
    simpa using whole.symm
  · next other =>
    obtain ⟨k, field⟩ := Nat.exists_eq_succ_of_ne_zero other
    rw [field, Nat.succ_mul] at whole
    rw [show ((max x.exponentField 1 : Nat) - 1075 + 1074 : Int).toNat = k by omega]
    omega

theorem significand_lt (x : Binary64) : x.significand < 2 * fractionSize := by
  have := x.fractionField_lt
  unfold significand
  split <;> omega

theorem exponent_ge (x : Binary64) : -1074 ≤ x.exponent := by
  unfold exponent
  omega

theorem exponentField_gt_iff (x : Binary64) : 1 < x.exponentField ↔ -1074 < x.exponent := by
  unfold exponent
  omega

/-- Only the smallest numbers have less than the full number of binary digits. -/
theorem fractionSize_le_significand {x : Binary64} (above : -1074 < x.exponent) :
    fractionSize ≤ x.significand := by
  have other : x.exponentField ≠ 0 := by
    have := (exponentField_gt_iff x).mpr above
    omega
  rw [significand, if_neg other]
  omega

theorem magnitude_lt_of_isFinite {x : Binary64} (finite : x.isFinite = true) :
    x.magnitude < infinityMagnitude :=
  (Nat.div_lt_iff_lt_mul (by decide)).mp (of_decide_eq_true finite)

/-- A positive number has a positive significand. -/
theorem significand_pos {x : Binary64} (some : 0 < x.magnitude) : 0 < x.significand := by
  by_contra none
  have smallest : ¬ -1074 < x.exponent := by
    intro above
    have full := fractionSize_le_significand above
    have size : 0 < fractionSize := by decide
    omega
  have least := x.exponent_ge
  rw [magnitude_eq, show (x.exponent + 1074).toNat = 0 by omega] at some
  omega

/-- The part of a unit below a number that is rounded to it: half of one, but half of the next smaller unit
where the exponent steps down. -/
def halfBelow (x : Binary64) : ℚ :=
  if x.significand = fractionSize ∧ 1 < x.exponentField then 1 / 4 else 1 / 2

/-- A number of units that is rounded to the significand. -/
def Near (x : Binary64) (t : ℚ) : Prop :=
  if x.significand % 2 = 0 then x.significand - x.halfBelow ≤ t ∧ t ≤ x.significand + 1 / 2
  else x.significand - x.halfBelow < t ∧ t < x.significand + 1 / 2

/-- A quotient in quarters of the unit. -/
theorem quarters_eq (num : Nat) {den : Nat} (positive : 0 < den) (e : Int) :
    (num : ℚ) / den / 2 ^ e = (num * Nat.pow 2 (-(e - 2)).toNat : Nat) /
      (Nat.pow 2 (e - 2).toNat * den : Nat) / 4 := by
  have quarter : (2 : ℚ) ^ e = 4 * 2 ^ (e - 2) := by
    rw [zpow_sub₀ two_ne_zero]
    norm_num
    ring
  have scale : (2 : ℚ) ^ (e - 2) = (Nat.pow 2 (e - 2).toNat : Nat) / (Nat.pow 2 (-(e - 2)).toNat : Nat) :=
    zpow_eq_div 2 (by decide) (e - 2)
  have up : ((Nat.pow 2 (e - 2).toNat : Nat) : ℚ) ≠ 0 := by exact_mod_cast (Nat.two_pow_pos _).ne'
  have down : ((Nat.pow 2 (-(e - 2)).toNat : Nat) : ℚ) ≠ 0 := by exact_mod_cast (Nat.two_pow_pos _).ne'
  have positive' : (den : ℚ) ≠ 0 := by exact_mod_cast positive.ne'
  rw [quarter, scale, Nat.cast_mul, Nat.cast_mul]
  field_simp

/-- The ends of the interval in quarters of the unit. -/
theorem ends_eq {x : Binary64} (some : 0 < x.significand) :
    (x.significand : ℚ) - x.halfBelow = (4 * x.significand -
        (if x.significand = fractionSize ∧ 1 < x.exponentField then 1 else 2) : Nat) / 4 ∧
      (x.significand : ℚ) + 1 / 2 = (4 * x.significand + 2 : Nat) / 4 := by
  constructor
  · unfold halfBelow
    split
    · rw [Nat.cast_sub (by omega)]
      push_cast
      ring
    · rw [Nat.cast_sub (by omega)]
      push_cast
      ring
  · push_cast
    ring

/-- The interval holds exactly the quotients that are near in units of the exponent. -/
theorem holds_iff {x : Binary64} (some : 0 < x.significand) (num : Nat) {den : Nat}
    (positive : 0 < den) :
    x.rounding.holds num den = true ↔ x.Near ((num : ℚ) / den / 2 ^ x.exponent) := by
  have width : 0 < Nat.pow 2 (x.exponent - 2).toNat * den := Nat.mul_pos (Nat.two_pow_pos _) positive
  obtain ⟨low, high⟩ := ends_eq some
  rw [Near, quarters_eq num positive, low, high]
  simp only [Rounding.holds, rounding, Nat.mul_assoc]
  generalize num * Nat.pow 2 (-(x.exponent - 2)).toNat = n
  generalize Nat.pow 2 (x.exponent - 2).toNat * den = w at width
  have width' : (0 : ℚ) < w := by exact_mod_cast width
  by_cases even : x.significand % 2 = 0
  · rw [if_pos even]
    simp only [even, beq_self_eq_true, if_true, Bool.and_eq_true, decide_eq_true_eq]
    rw [div_le_div_iff_of_pos_right four_pos, le_div_iff₀ width',
      div_le_div_iff_of_pos_right four_pos, div_le_iff₀ width']
    norm_cast
  · rw [if_neg even]
    simp only [beq_eq_false_iff_ne.mpr even, Bool.false_eq_true, if_false, Bool.and_eq_true,
      decide_eq_true_eq]
    rw [div_lt_div_iff_of_pos_right four_pos, lt_div_iff₀ width',
      div_lt_div_iff_of_pos_right four_pos, div_lt_iff₀ width']
    norm_cast

/-- Near quotients are within half a unit, and at an end of that only if the significand is even. -/
theorem Near.within {x : Binary64} {t : ℚ} (near : x.Near t) :
    x.significand - x.halfBelow ≤ t ∧ t ≤ x.significand + 1 / 2 ∧
      (x.significand % 2 = 0 ∨ x.significand - x.halfBelow < t ∧ t < x.significand + 1 / 2) := by
  unfold Near at near
  split at near
  · next even => exact ⟨near.1, near.2, .inl even⟩
  · exact ⟨near.1.le, near.2.le, .inr near⟩

theorem halfBelow_le (x : Binary64) : x.halfBelow ≤ 1 / 2 := by
  unfold halfBelow
  split <;> norm_num

/-- Just below a power of two the unit is half as wide, and twice the significand is the nearest number of
these units. -/
theorem ofRatio_eq_of_stepDown {x : Binary64} {num den : Nat} (negative : Bool) (some : 0 < num)
    (positive : 0 < den) {t : ℚ} (units : (num : ℚ) / den = t * 2 ^ x.exponent)
    (above : -1074 < x.exponent) (power : x.significand = fractionSize)
    (low : fractionSize - 1 / 4 ≤ t) (high : t < fractionSize) :
    ofRatio negative num den = ofMagnitude negative (min x.magnitude infinityMagnitude) := by
  have size : (fractionSize : ℚ) = 2 ^ (52 : Int) := by norm_num [fractionSize]
  have unit : (0 : ℚ) < 2 ^ x.exponent := zpow_pos two_pos _
  have least : x.exponent + 51 ≤ order num den := by
    refine le_order some positive ?_
    rw [units, zpow_add₀ two_ne_zero, mul_comm]
    refine mul_le_mul_of_nonneg_right (le_trans ?_ low) unit.le
    norm_num [fractionSize]
  have greatest : order num den ≤ x.exponent + 51 := by
    refine order_le some positive ?_
    rw [units, add_assoc, zpow_add₀ two_ne_zero, mul_comm]
    exact mul_lt_mul_of_pos_left (high.trans_eq size) unit
  have doubled : (num : ℚ) / den / 2 ^ (x.exponent - 1) = 2 * t := by
    rw [units, zpow_sub₀ two_ne_zero]
    field_simp
  -- a quarter of a unit is half of the unit that is half as wide, and twice a significand is even
  have halves := ofRatio_eq (n := 2 * fractionSize) (e := x.exponent - 1) negative some positive
    (by omega) (by rw [doubled]; push_cast; linarith) (by rw [doubled]; push_cast; linarith)
    (.inl (by omega))
  obtain ⟨k, steps⟩ := Int.eq_ofNat_of_zero_le (a := x.exponent + 1073) (by omega)
  rw [halves, magnitude_eq, power, show (x.exponent - 1 + 1074).toNat = k by omega,
    show (x.exponent + 1074).toNat = k + 1 by omega, Nat.succ_mul k, Nat.two_mul, Nat.add_assoc]

/-- A quotient that is near a finite number is rounded to it. -/
theorem ofRatio_eq_of_near {x : Binary64} (finite : x.isFinite = true) (some : 0 < x.magnitude)
    (negative : Bool) {num den : Nat} (positive : 0 < den)
    (near : x.Near ((num : ℚ) / den / 2 ^ x.exponent)) :
    ofRatio negative num den = ofMagnitude negative x.magnitude := by
  obtain ⟨low, high, ends⟩ := near.within
  have unit : (0 : ℚ) < 2 ^ x.exponent := zpow_pos two_pos _
  have half := x.halfBelow_le
  have one : (1 : ℚ) ≤ x.significand := by exact_mod_cast significand_pos some
  have size : (fractionSize : ℚ) = 2 ^ (52 : Int) := by norm_num [fractionSize]
  have units : (num : ℚ) / den = (num : ℚ) / den / 2 ^ x.exponent * 2 ^ x.exponent :=
    (div_mul_cancel₀ _ unit.ne').symm
  have someNum : 0 < num := by
    rw [Nat.pos_iff_ne_zero]
    rintro rfl
    rw [Nat.cast_zero, zero_div, zero_div] at low
    linarith
  have finite := magnitude_lt_of_isFinite finite
  -- only below a power of two is the order of the quotient not the one of the number
  by_cases stepDown : -1074 < x.exponent ∧ (num : ℚ) / den / 2 ^ x.exponent < fractionSize
  · obtain ⟨above, less⟩ := stepDown
    have power : x.significand = fractionSize := by
      have full := fractionSize_le_significand above
      have : x.significand < fractionSize + 1 := by
        have : (x.significand : ℚ) < fractionSize + 1 := by linarith
        exact_mod_cast this
      omega
    have quarter : x.halfBelow = 1 / 4 := if_pos ⟨power, x.exponentField_gt_iff.mpr above⟩
    rw [quarter, power] at low
    rw [ofRatio_eq_of_stepDown negative someNum positive units above power low less,
      Nat.min_eq_left finite.le]
  · have greatest : order num den ≤ x.exponent + 52 := by
      refine order_le someNum positive ?_
      have short : (x.significand : ℚ) + 1 ≤ 2 * fractionSize := by
        exact_mod_cast x.significand_lt
      rw [units, add_assoc, zpow_add₀ two_ne_zero, mul_comm]
      refine mul_lt_mul_of_pos_left ?_ unit
      norm_num [fractionSize] at short ⊢
      linarith
    have least : -1074 < x.exponent → x.exponent + 52 ≤ order num den := by
      intro above
      refine le_order someNum positive ?_
      have enough : (fractionSize : ℚ) ≤ (num : ℚ) / den / 2 ^ x.exponent :=
        not_lt.mp fun less => stepDown ⟨above, less⟩
      rw [units, zpow_add₀ two_ne_zero, mul_comm, ← size]
      exact mul_le_mul_of_nonneg_right enough unit.le
    have lowest := x.exponent_ge
    have nearest := ofRatio_eq (n := x.significand) (e := x.exponent) negative someNum positive
      (by omega) (by linarith) high (ends.imp_right fun strict => ⟨by linarith [strict.1], strict.2⟩)
    rw [nearest, ← magnitude_eq, Nat.min_eq_left finite.le]

end MockSchema.Binary64
