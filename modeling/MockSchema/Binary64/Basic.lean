/-!
# Binary floating-point numbers

A number is its 64-bit word. Values, order and rounding are exact integer arithmetic on the fields of
the word, so every operation can be computed and reasoned about.
-/

namespace MockSchema

/-- A floating-point number of 64 bits: sign, eleven bits of exponent, 52 bits of fraction. -/
structure Binary64 where
  bits : UInt64
  deriving DecidableEq, Repr, Inhabited

namespace Binary64

def fractionSize : Nat := Nat.pow 2 52
def signWeight : Nat := Nat.pow 2 63
def exponentLimit : Nat := 2047

def isNegative (x : Binary64) : Bool := decide (signWeight ≤ x.bits.toNat)

/-- The word without its sign. -/
def magnitude (x : Binary64) : Nat := x.bits.toNat % signWeight

def exponentField (x : Binary64) : Nat := x.magnitude / fractionSize

def fractionField (x : Binary64) : Nat := x.magnitude % fractionSize

def isFinite (x : Binary64) : Bool := x.exponentField < exponentLimit

def isNaN (x : Binary64) : Bool := x.exponentField == exponentLimit && x.fractionField != 0

/-- A finite number is `significand * 2 ^ exponent`, up to its sign. -/
def significand (x : Binary64) : Nat :=
  if x.exponentField = 0 then x.fractionField else fractionSize + x.fractionField

def exponent (x : Binary64) : Int := (max x.exponentField 1 : Nat) - 1075

/-- Puts the sign in front of a magnitude below `signWeight`. -/
def ofMagnitude (negative : Bool) (m : Nat) : Binary64 :=
  ⟨((if negative then signWeight else 0) + m).toUInt64⟩

def infinityMagnitude : Nat := exponentLimit * fractionSize

def zero : Binary64 := ⟨0⟩
def one : Binary64 := ⟨0x3FF0000000000000⟩
def infinity (negative : Bool) : Binary64 := ofMagnitude negative infinityMagnitude
def nan : Binary64 := ⟨0x7FF8000000000000⟩

/-- The quotient rounded to an integer, a half going to the even neighbour. -/
def roundDiv (num den : Nat) : Nat :=
  let q := num / den
  let twice := 2 * (num % den)
  if twice < den then q
  else if den < twice then q + 1
  else if q % 2 = 0 then q else q + 1

/-- The binary order of a positive quotient: `2 ^ order ≤ num / den < 2 ^ (order + 1)`. -/
def order (num den : Nat) : Int :=
  let k : Int := (num.log2 : Int) - den.log2
  let reaches := if 0 ≤ k then den * Nat.pow 2 k.toNat ≤ num else den ≤ num * Nat.pow 2 (-k).toNat
  if reaches then k else k - 1

/-- The number nearest to `num / den`. Adding the significand to the exponent field lets a carry move
into the next exponent; too large a quotient becomes infinite. -/
def ofRatio (negative : Bool) (num den : Nat) : Binary64 :=
  if num = 0 then ofMagnitude negative 0
  else
    let e := max (order num den - 52) (-1074)
    let r := if 0 ≤ e then roundDiv num (den * Nat.pow 2 e.toNat) else roundDiv (num * Nat.pow 2 (-e).toNat) den
    ofMagnitude negative (min ((e + 1074).toNat * fractionSize + r) infinityMagnitude)

/-- The number nearest to `m * 2 ^ e`. -/
def ofDyadic (negative : Bool) (m : Nat) (e : Int) : Binary64 :=
  if 0 ≤ e then ofRatio negative (m * Nat.pow 2 e.toNat) 1 else ofRatio negative m (Nat.pow 2 (-e).toNat)

def ofInt (i : Int) : Binary64 := ofRatio (decide (i < 0)) i.natAbs 1

/-- Position on the number line, the two zeros sharing one place. -/
def orderKey (x : Binary64) : Int := if x.isNegative then -(x.magnitude : Int) else x.magnitude

/-- Numerical order; a NaN compares with nothing. -/
def le (x y : Binary64) : Bool := !x.isNaN && !y.isNaN && decide (x.orderKey ≤ y.orderKey)

/-- Numerical order; a NaN compares with nothing. -/
def lt (x y : Binary64) : Bool := !x.isNaN && !y.isNaN && decide (x.orderKey < y.orderKey)

/-- Numerical equality: the zeros are equal and a NaN equals nothing. -/
def same (x y : Binary64) : Bool := !x.isNaN && !y.isNaN && x.orderKey == y.orderKey

def neg (x : Binary64) : Binary64 := ofMagnitude (!x.isNegative) x.magnitude

/-- The signed integer `s` of a finite number written as `s * 2 ^ e`, for `e` at most its exponent. -/
def scaled (x : Binary64) (e : Int) : Int :=
  let m : Int := (x.significand * Nat.pow 2 (x.exponent - e).toNat : Nat)
  if x.isNegative then -m else m

/-- The sum of two finite numbers, rounded once. A sum that is exactly zero is positive unless both
terms are negative zeros. -/
def add (x y : Binary64) : Binary64 :=
  let e := min x.exponent y.exponent
  let s := x.scaled e + y.scaled e
  if s = 0 then ofMagnitude (x.isNegative && y.isNegative) 0
  else ofDyadic (decide (s < 0)) s.natAbs e

def sub (x y : Binary64) : Binary64 := x.add y.neg

/-- The product of two finite numbers, rounded once. -/
def mul (x y : Binary64) : Binary64 :=
  ofDyadic (x.isNegative != y.isNegative) (x.significand * y.significand) (x.exponent + y.exponent)

/-- The integer part of `x * 2 ^ k` for a finite `x` that is not negative. -/
def floorScaled (x : Binary64) (k : Nat) : Nat :=
  let e := x.exponent + k
  if 0 ≤ e then x.significand * Nat.pow 2 e.toNat else x.significand / Nat.pow 2 (-e).toNat

/-- Lies between zero and one, both included. -/
def isProbability (x : Binary64) : Bool := zero.le x && x.le one

end Binary64

end MockSchema
