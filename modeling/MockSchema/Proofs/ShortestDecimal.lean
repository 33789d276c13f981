import Mathlib.Data.List.TakeWhile
import Mathlib.Tactic.NormNum
import MockSchema.Binary64.Decimal
import MockSchema.Proofs.IntegerText
import MockSchema.Proofs.Rounding

/-!
# Shortest decimals read back

The search for the shortest decimal of a number ends with a decimal in the interval of the number, at the
latest when it tries seventeen digits: then the grid is so fine that the next decimal above the number is
nearer than half a unit (`onGrid_isSome`). A decimal in the interval of a number is read as the number
(`ofDecimal_eq_of_near`).
-/

namespace MockSchema.Binary64

/-! ## Orders of ten -/

theorem digitCount_pos (n : Nat) : 0 < digitCount n := List.length_pos_iff.mpr Nat.toDigits_ne_nil

theorem lt_pow_digitCount (n : Nat) : n < 10 ^ digitCount n :=
  (Nat.length_toDigits_le_iff (by decide) (digitCount_pos n)).mp (Nat.le_refl _)

theorem pow_digitCount_le {n : Nat} (some : 0 < n) : 10 ^ (digitCount n - 1) ≤ n := by
  have long := digitCount_pos n
  by_cases one : digitCount n = 1
  · rw [one]
    exact some
  · by_contra below
    have short : digitCount n ≤ digitCount n - 1 :=
      (Nat.length_toDigits_le_iff (by decide) (by omega)).mpr (not_le.mp below)
    omega

/-- A positive quotient reaches the power of ten of its decimal order. -/
theorem zpow_decimalOrder_le {num den : Nat} (some : 0 < num) (positive : 0 < den) :
    (10 : ℚ) ^ decimalOrder num den ≤ num / den := by
  have positive' : (0 : ℚ) < den := by exact_mod_cast positive
  rw [le_div_iff₀ positive']
  unfold decimalOrder
  split
  · next reaches =>
    have long := digitCount_pos (num / den)
    have digits := pow_digitCount_le (Nat.div_pos reaches positive)
    have product : 10 ^ (digitCount (num / den) - 1) * den ≤ num :=
      (Nat.mul_le_mul_right den digits).trans (Nat.div_mul_le_self num den)
    rw [show (digitCount (num / den) : Int) - 1 = (digitCount (num / den) - 1 : Nat) by omega, zpow_natCast]
    exact_mod_cast product
  · next less =>
    have digits := lt_pow_digitCount ((den - 1) / num)
    have product : den ≤ 10 ^ digitCount ((den - 1) / num) * num := by
      have rest : (den - 1) % num < num := Nat.mod_lt _ some
      have whole : (den - 1) / num * num + (den - 1) % num = den - 1 := Nat.div_add_mod' _ _
      have more : ((den - 1) / num + 1) * num ≤ 10 ^ digitCount ((den - 1) / num) * num :=
        Nat.mul_le_mul_right num digits
      rw [Nat.succ_mul] at more
      omega
    have power : (0 : ℚ) < 10 ^ digitCount ((den - 1) / num) := pow_pos (by norm_num) _
    rw [zpow_neg, zpow_natCast, inv_mul_le_iff₀ power]
    exact_mod_cast product

/-! ## Grids -/

/-- What a grid gives is positive and in the interval. -/
theorem onGrid_eq_some {r : Rounding} {unit : Int} {d : Nat} (found : r.onGrid unit = some d) :
    0 < d ∧ r.holds (d * Nat.pow 10 unit.toNat) (Nat.pow 10 (-unit).toNat) = true := by
  unfold Rounding.onGrid at found
  dsimp only at found
  split at found
  · next low =>
    cases found
    simp only [Bool.and_eq_true, decide_eq_true_eq] at low
    exact ⟨low.1.2, low.1.1⟩
  split at found
  · next high =>
    cases found
    exact ⟨Nat.succ_pos _, high⟩
  · cases found

/-- If one of the grids that are tried gives a decimal, the search ends with a positive decimal in the
interval. -/
theorem search_holds {r : Rounding} {order : Int} {fuel n : Nat}
    (found : ∃ k : Nat, n ≤ k ∧ k < n + fuel ∧ (r.onGrid (order - k)).isSome = true) :
    0 < (r.search order fuel n).digits ∧
      r.holds ((r.search order fuel n).digits * Nat.pow 10 (r.search order fuel n).exponent.toNat)
        (Nat.pow 10 (-(r.search order fuel n).exponent).toNat) = true := by
  induction fuel generalizing n with
  | zero =>
    obtain ⟨k, from_, below, -⟩ := found
    omega
  | succ fuel ih =>
    unfold Rounding.search
    dsimp only
    split
    · next d here => exact onGrid_eq_some here
    · next here =>
      obtain ⟨k, from_, below, hit⟩ := found
      have later : n ≠ k := by
        rintro rfl
        rw [here] at hit
        cases hit
      exact ih ⟨k, by omega, by omega, hit⟩

/-- The number itself in units of its exponent. -/
theorem exact_eq (x : Binary64) :
    (x.rounding.exact : ℚ) / x.rounding.den = x.significand * 2 ^ x.exponent := by
  have scale : (2 : ℚ) ^ (x.exponent - 2) =
      (Nat.pow 2 (x.exponent - 2).toNat : Nat) / (Nat.pow 2 (-(x.exponent - 2)).toNat : Nat) :=
    zpow_eq_div 2 (by decide) _
  change ((4 * x.significand * Nat.pow 2 (x.exponent - 2).toNat : Nat) : ℚ) /
    (Nat.pow 2 (-(x.exponent - 2)).toNat : Nat) = _
  rw [Nat.cast_mul, mul_div_assoc, ← scale, zpow_sub₀ two_ne_zero]
  push_cast
  ring

/-- A decimal is in the interval of a number if it is near in units of the exponent. -/
theorem holds_decimal_iff {x : Binary64} (some : 0 < x.significand) (d : Nat) (unit : Int) :
    x.rounding.holds (d * Nat.pow 10 unit.toNat) (Nat.pow 10 (-unit).toNat) = true ↔
      x.Near ((d : ℚ) * 10 ^ unit / 2 ^ x.exponent) := by
  have scale : (10 : ℚ) ^ unit = (Nat.pow 10 unit.toNat : Nat) / (Nat.pow 10 (-unit).toNat : Nat) :=
    zpow_eq_div 10 (by decide) unit
  have positive : 0 < Nat.pow 10 (-unit).toNat := Nat.pow_pos (by decide)
  rw [holds_iff some _ positive, Nat.cast_mul, mul_div_assoc, ← scale]

theorem near_of_above {x : Binary64} {t : ℚ} (low : x.significand ≤ t)
    (high : t < x.significand + 1 / 2) : x.Near t := by
  have some : 0 < x.halfBelow := by
    unfold halfBelow
    split <;> norm_num
  unfold Near
  split
  · exact ⟨by linarith, high.le⟩
  · exact ⟨by linarith, high⟩

/-- The next decimal of a grid lies above a quotient, by no more than the width of the grid. -/
theorem next_on_grid (num : Nat) {den : Nat} (positive : 0 < den) (unit : Int) :
    (num : ℚ) / den < (num * Nat.pow 10 (-unit).toNat / (den * Nat.pow 10 unit.toNat) + 1 : Nat) *
        10 ^ unit ∧
      (num * Nat.pow 10 (-unit).toNat / (den * Nat.pow 10 unit.toNat) + 1 : Nat) * 10 ^ unit ≤
        (num : ℚ) / den + 10 ^ unit := by
  have scale : (10 : ℚ) ^ unit = (Nat.pow 10 unit.toNat : Nat) / (Nat.pow 10 (-unit).toNat : Nat) :=
    zpow_eq_div 10 (by decide) unit
  have upPos : 0 < Nat.pow 10 unit.toNat := Nat.pow_pos (by decide)
  have downPos : 0 < Nat.pow 10 (-unit).toNat := Nat.pow_pos (by decide)
  generalize Nat.pow 10 unit.toNat = up at scale upPos
  generalize Nat.pow 10 (-unit).toNat = down at scale downPos
  have above := Nat.lt_mul_div_succ (num * down) (Nat.mul_pos positive upPos)
  have below := Nat.div_mul_le_self (num * down) (den * up)
  generalize num * down / (den * up) = k at above below
  have denPos : (0 : ℚ) < den := by exact_mod_cast positive
  have upPos' : (0 : ℚ) < up := by exact_mod_cast upPos
  have downPos' : (0 : ℚ) < down := by exact_mod_cast downPos
  have above' : (num * down : ℚ) < den * up * (k + 1) := by exact_mod_cast above
  have below' : (k * (den * up) : ℚ) ≤ num * down := by exact_mod_cast below
  have whole : (k : ℚ) * 10 ^ unit ≤ num / den := by
    rw [scale, le_div_iff₀ denPos, mul_div_assoc', div_mul_eq_mul_div, div_le_iff₀ downPos']
    linarith
  constructor
  · rw [scale, div_lt_iff₀ denPos, Nat.cast_add, Nat.cast_one, mul_div_assoc', div_mul_eq_mul_div,
      lt_div_iff₀ downPos']
    linarith
  · push_cast
    linarith

/-- On a grid of seventeen digits the next decimal above a number is in its interval. -/
theorem onGrid_isSome {x : Binary64} (some : 0 < x.significand) :
    (x.rounding.onGrid (decimalOrder x.rounding.exact x.rounding.den - 17)).isSome = true := by
  have denPos : 0 < x.rounding.den := Nat.two_pow_pos _
  have exactPos : 0 < x.rounding.exact :=
    Nat.mul_pos (Nat.mul_pos (by decide) some) (Nat.two_pow_pos _)
  have reached := zpow_decimalOrder_le exactPos denPos
  obtain ⟨above, within⟩ :=
    next_on_grid x.rounding.exact denPos (decimalOrder x.rounding.exact x.rounding.den - 17)
  generalize decimalOrder x.rounding.exact x.rounding.den = order at reached above within
  have unit : (0 : ℚ) < 2 ^ x.exponent := zpow_pos two_pos _
  have fine : (10 : ℚ) ^ (order - 17) = 10 ^ order / 10 ^ 17 := by
    rw [zpow_sub₀ (by norm_num)]
    norm_num
  have short : (x.significand : ℚ) < 2 * fractionSize := by exact_mod_cast x.significand_lt
  have short : (x.significand : ℚ) < 2 ^ 53 := by
    norm_num [fractionSize] at short ⊢
    exact short
  rw [exact_eq] at reached above within
  have high : x.rounding.holds ((x.rounding.exact * Nat.pow 10 (-(order - 17)).toNat /
      (x.rounding.den * Nat.pow 10 (order - 17).toNat) + 1) * Nat.pow 10 (order - 17).toNat)
      (Nat.pow 10 (-(order - 17)).toNat) = true := by
    rw [holds_decimal_iff some]
    refine near_of_above ?_ ?_
    · rw [le_div_iff₀ unit]
      exact above.le
    · rw [div_lt_iff₀ unit]
      refine lt_of_le_of_lt within ?_
      rw [fine, add_mul, add_lt_add_iff_left, div_lt_iff₀ (by norm_num)]
      refine lt_of_le_of_lt reached ?_
      -- this is where seventeen digits are needed: the significand has fifty-three binary digits
      have wide : (x.significand : ℚ) < 1 / 2 * 10 ^ 17 := short.trans (by norm_num)
      calc (x.significand : ℚ) * 2 ^ x.exponent < 1 / 2 * 10 ^ 17 * 2 ^ x.exponent :=
            mul_lt_mul_of_pos_right wide unit
        _ = 1 / 2 * 2 ^ x.exponent * 10 ^ 17 := by ring
  unfold Rounding.onGrid
  dsimp only
  rw [high]
  split
  · rfl
  · rfl

/-- The shortest decimal of a number is positive and in the interval of the number. -/
theorem shortest_near {x : Binary64} (some : 0 < x.magnitude) :
    0 < x.shortest.digits ∧
      x.Near ((x.shortest.digits : ℚ) * 10 ^ x.shortest.exponent / 2 ^ x.exponent) := by
  have significant := significand_pos some
  obtain ⟨positive, holds⟩ : 0 < x.shortest.digits ∧ x.rounding.holds
      (x.shortest.digits * Nat.pow 10 x.shortest.exponent.toNat)
      (Nat.pow 10 (-x.shortest.exponent).toNat) = true :=
    search_holds ⟨17, Nat.zero_le 17, by decide, onGrid_isSome significant⟩
  refine ⟨positive, ?_⟩
  exact (holds_decimal_iff significant _ _).mp holds

/-! ## Decimals -/

theorem exponent_le {x : Binary64} (finite : x.isFinite = true) : x.exponent ≤ 971 := by
  have field : x.exponentField < 2047 := of_decide_eq_true finite
  unfold exponent
  omega

theorem two_pow_lt_ten_pow {k n : Nat} (some : n ≠ 0) (h : k ≤ 3 * n) : (2 : ℚ) ^ k < 10 ^ n :=
  calc (2 : ℚ) ^ k ≤ 2 ^ (3 * n) := pow_le_pow_right₀ one_le_two h
    _ = 8 ^ n := by
      rw [pow_mul]
      norm_num
    _ < 10 ^ n := pow_lt_pow_left₀ (by norm_num) (by norm_num) some

/-- Numbers of units that are near a finite positive number stay clear of zero and of infinity. -/
theorem Near.bounds {x : Binary64} (finite : x.isFinite = true) (some : 0 < x.magnitude) {v : ℚ}
    (near : x.Near (v / 2 ^ x.exponent)) : (10 : ℚ) ^ (-400 : Int) < v ∧ v < 10 ^ (399 : Int) := by
  have unit : (0 : ℚ) < 2 ^ x.exponent := zpow_pos two_pos _
  have half := x.halfBelow_le
  have one : (1 : ℚ) ≤ x.significand := by exact_mod_cast significand_pos some
  have short : (x.significand : ℚ) + 1 ≤ 2 * fractionSize := by exact_mod_cast x.significand_lt
  have short : (x.significand : ℚ) + 1 ≤ 2 ^ 53 := by
    norm_num [fractionSize] at short ⊢
    exact short
  obtain ⟨low, high, -⟩ := near.within
  rw [le_div_iff₀ unit] at low
  rw [div_le_iff₀ unit] at high
  constructor
  · have least : (2 : ℚ) ^ (-1074 : Int) ≤ 2 ^ x.exponent :=
      zpow_le_zpow_right₀ one_le_two x.exponent_ge
    -- half of the least unit is more than the least order that is not taken for zero
    have small : (10 : ℚ) ^ (-400 : Int) < 1 / 2 * 2 ^ (-1074 : Int) := by
      have big : (2 : ℚ) ^ 1075 < 10 ^ 400 := two_pow_lt_ten_pow (by decide) (by decide)
      have inverse : (1 / 2 : ℚ) * (2 ^ 1074)⁻¹ = (2 ^ 1075)⁻¹ := by
        rw [pow_succ (2 : ℚ) 1074, mul_inv_rev, one_div]
      rw [zpow_neg, zpow_neg]
      exact (inv_strictAnti₀ (by positivity) big).trans_eq inverse.symm
    calc (10 : ℚ) ^ (-400 : Int) < 1 / 2 * 2 ^ (-1074 : Int) := small
      _ ≤ 1 / 2 * 2 ^ x.exponent := by linarith
      _ ≤ (x.significand - x.halfBelow) * 2 ^ x.exponent :=
        mul_le_mul_of_nonneg_right (by linarith) unit.le
      _ ≤ v := low
  · have greatest : (2 : ℚ) ^ x.exponent ≤ 2 ^ (971 : Int) :=
      zpow_le_zpow_right₀ one_le_two (exponent_le finite)
    calc v ≤ (x.significand + 1 / 2) * 2 ^ x.exponent := high
      _ ≤ 2 ^ 53 * 2 ^ x.exponent := mul_le_mul_of_nonneg_right (by linarith) unit.le
      _ ≤ 2 ^ 53 * 2 ^ (971 : Int) := by linarith
      _ = 2 ^ 1024 := (pow_add (2 : ℚ) 53 971).symm
      _ < 10 ^ 399 := two_pow_lt_ten_pow (by decide) (by decide)
      _ = 10 ^ (399 : Int) := (zpow_natCast (10 : ℚ) 399).symm

/-- A decimal in the interval of a finite number reads as that number. The order of the decimal keeps clear of
the orders that are decided without building a power. -/
theorem ofDecimal_eq_of_near {x : Binary64} (finite : x.isFinite = true) (some : 0 < x.magnitude)
    (negative : Bool) {m : Nat} {e : Int} (near : x.Near ((m : ℚ) * 10 ^ e / 2 ^ x.exponent)) :
    ofDecimal negative m e = ofMagnitude negative x.magnitude := by
  obtain ⟨low, high⟩ := near.bounds finite some
  have unit : (0 : ℚ) < 10 ^ e := zpow_pos (by norm_num) _
  have positive : 0 < m := by
    rw [Nat.pos_iff_ne_zero]
    rintro rfl
    have least : (0 : ℚ) < 10 ^ (-400 : Int) := zpow_pos (by norm_num) _
    rw [Nat.cast_zero, zero_mul] at low
    linarith
  have long := digitCount_pos m
  have digitsLow : (10 : ℚ) ^ ((digitCount m : Int) - 1) ≤ m := by
    rw [show (digitCount m : Int) - 1 = (digitCount m - 1 : Nat) by omega, zpow_natCast]
    exact_mod_cast pow_digitCount_le positive
  have digitsHigh : (m : ℚ) < 10 ^ (digitCount m : Int) := by
    rw [zpow_natCast]
    exact_mod_cast lt_pow_digitCount m
  have top : e + (digitCount m : Int) - 1 < 399 := by
    refine (zpow_lt_zpow_iff_right₀ (a := (10 : ℚ)) (by norm_num)).mp (lt_of_le_of_lt ?_ high)
    rw [show e + (digitCount m : Int) - 1 = (digitCount m : Int) - 1 + e by ring,
      zpow_add₀ (by norm_num)]
    exact mul_le_mul_of_nonneg_right digitsLow unit.le
  have bottom : -400 < e + (digitCount m : Int) := by
    refine (zpow_lt_zpow_iff_right₀ (a := (10 : ℚ)) (by norm_num)).mp (low.trans ?_)
    rw [add_comm, zpow_add₀ (by norm_num)]
    exact mul_lt_mul_of_pos_right digitsHigh unit
  have scale : (10 : ℚ) ^ e = (Nat.pow 10 e.toNat : Nat) / (Nat.pow 10 (-e).toNat : Nat) :=
    zpow_eq_div 10 (by decide) e
  rw [ofDecimal, if_neg positive.ne']
  change (if 400 < e + (digitCount m : Int) then _ else if e + (digitCount m : Int) < -400 then _ else _) = _
  rw [if_neg (by omega), if_neg (by omega)]
  rw [scale] at near
  split
  · next nonneg =>
    rw [show (-e).toNat = 0 by omega, show Nat.pow 10 0 = 1 from rfl, ← mul_div_assoc, ← Nat.cast_mul] at near
    exact ofRatio_eq_of_near finite some negative Nat.one_pos near
  · next below =>
    rw [show e.toNat = 0 by omega, show Nat.pow 10 0 = 1 from rfl, Nat.cast_one, mul_one_div] at near
    exact ofRatio_eq_of_near finite some negative (Nat.pow_pos (by decide)) near

/-! ## Digits -/

theorem ofDigits_eq (cs : List Char) : ofDigits cs = Nat.ofDigitChars 10 cs 0 := rfl

theorem ofDigits_toDigits (n : Nat) : ofDigits (Nat.toDigits 10 n) = n := by
  rw [ofDigits_eq, Nat.ofDigitChars_ten_toDigits]

/-- Zeros behind digits shift them. -/
theorem ofDigits_append_zeros (ds : List Char) (n : Nat) :
    ofDigits (ds ++ List.replicate n '0') = ofDigits ds * 10 ^ n := by
  rw [ofDigits_eq, Nat.ofDigitChars_append, Nat.ofDigitChars_replicate_zero, Nat.mul_comm]
  rfl

/-- Zeros in front of digits do not count. -/
theorem ofDigits_zeros_append (n : Nat) (ds : List Char) :
    ofDigits (List.replicate n '0' ++ ds) = ofDigits ds := by
  rw [ofDigits_eq, Nat.ofDigitChars_append, Nat.ofDigitChars_replicate_zero, Nat.mul_zero]
  rfl

/-- Digits are what is left without the zeros at their end, and these zeros. -/
theorem exists_zeros (cs : List Char) :
    ∃ n, cs = (cs.reverse.dropWhile (· == '0')).reverse ++ List.replicate n '0' := by
  have zeros : ∀ c ∈ cs.reverse.takeWhile (· == '0'), c = '0' := by
    intro c member
    simpa using List.mem_takeWhile_imp member
  have split : cs.reverse.takeWhile (· == '0') ++ cs.reverse.dropWhile (· == '0') = cs.reverse :=
    List.takeWhile_append_dropWhile
  refine ⟨(cs.reverse.takeWhile (· == '0')).length, ?_⟩
  rw [← List.reverse_replicate, ← List.eq_replicate_of_mem zeros, ← List.reverse_append, split,
    List.reverse_reverse]

/-- The digits of the shortest decimal do not begin with a zero, and the decimal is in the interval. -/
theorem shortestDigits_spec {x : Binary64} (some : 0 < x.magnitude) :
    Significant x.shortestDigits.1 ∧
      (∀ c ∈ x.shortestDigits.1, c.isDigit = true) ∧
      x.Near ((ofDigits x.shortestDigits.1 : ℚ) *
        10 ^ (x.shortestDigits.2 + 1 - x.shortestDigits.1.length) / 2 ^ x.exponent) := by
  obtain ⟨positive, near⟩ := shortest_near some
  obtain ⟨n, stripped⟩ := exists_zeros (Nat.toDigits 10 x.shortest.digits)
  have order : x.shortestDigits.2 =
      x.shortest.exponent + (Nat.toDigits 10 x.shortest.digits).length - 1 := rfl
  change Nat.toDigits 10 x.shortest.digits = x.shortestDigits.1 ++ List.replicate n '0' at stripped
  refine ⟨?_, ?_, ?_⟩
  · rcases toDigits_head x.shortest.digits with ⟨zero, -⟩ | ⟨-, first⟩
    · omega
    · rw [stripped] at first
      exact first.of_append (not_significant_zeros n)
  · intro c member
    exact isDigit_of_mem_decimal (n := x.shortest.digits) (stripped ▸ List.mem_append_left _ member)
  · have digits : x.shortest.digits = ofDigits x.shortestDigits.1 * 10 ^ n := by
      rw [← ofDigits_append_zeros, ← stripped, ofDigits_toDigits]
    have length : (Nat.toDigits 10 x.shortest.digits).length = x.shortestDigits.1.length + n := by
      rw [stripped, List.length_append, List.length_replicate]
    have shifted : (10 : ℚ) ^ (x.shortestDigits.2 + 1 - x.shortestDigits.1.length) =
        10 ^ n * 10 ^ x.shortest.exponent := by
      rw [order, length, ← zpow_natCast, ← zpow_add₀ (by norm_num)]
      congr 1
      push_cast
      ring
    rw [digits] at near
    rw [shifted, ← mul_assoc]
    exact_mod_cast near

end MockSchema.Binary64
