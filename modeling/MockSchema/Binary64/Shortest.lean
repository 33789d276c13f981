import MockSchema.Binary64.Basic

/-!
# Fewest digits that read back

A decimal reads back as a number when it lies in the interval of reals that round to the number. For
one, two, three digits and so on the two neighbours on that decimal grid are tried; the first grid
with a hit gives the digits.
-/

namespace MockSchema.Binary64

/-- A decimal `digits * 10 ^ exponent`. -/
structure Decimal where
  digits : Nat
  exponent : Int
  deriving DecidableEq, Repr

/-- Number of decimal digits; one for zero. -/
def digitCount (n : Nat) : Nat := (Nat.toDigits 10 n).length

/-- The decimal order of a positive quotient: `10 ^ order ≤ num / den < 10 ^ (order + 1)`. -/
def decimalOrder (num den : Nat) : Int :=
  if den ≤ num then (digitCount (num / den) : Int) - 1
  else -(digitCount ((den - 1) / num) : Int)

/-- Reals that round to a finite positive number, as numerators over a common denominator. The ends
belong to it when the significand is even. -/
structure Rounding where
  low : Nat
  exact : Nat
  high : Nat
  den : Nat
  closed : Bool
  deriving Repr

/-- The lower half-gap is half as wide at a power of two, where the exponent steps down. -/
def rounding (x : Binary64) : Rounding :=
  let m := x.significand
  let below := if m = fractionSize ∧ 1 < x.exponentField then 1 else 2
  let e := x.exponent - 2
  let up := Nat.pow 2 e.toNat
  ⟨(4 * m - below) * up, 4 * m * up, (4 * m + 2) * up, Nat.pow 2 (-e).toNat, m % 2 == 0⟩

/-- Whether the fraction `num / den` lies in the interval. -/
def Rounding.holds (r : Rounding) (num den : Nat) : Bool :=
  let n := num * r.den
  if r.closed then r.low * den ≤ n && n ≤ r.high * den else r.low * den < n && n < r.high * den

/-- The nearer neighbour on the grid of step `10 ^ unit` that reads back, if one does. A tie goes up. -/
def Rounding.onGrid (r : Rounding) (unit : Int) : Option Nat :=
  let up := Nat.pow 10 unit.toNat
  let down := Nat.pow 10 (-unit).toNat
  let below := r.exact * down / (r.den * up)
  let above := below + 1
  let rest := r.exact * down % (r.den * up)
  let lowHit := r.holds (below * up) down && 0 < below
  let highHit := r.holds (above * up) down
  if lowHit && (!highHit || 2 * rest < r.den * up) then some below
  else if highHit then some above
  else none

/-- Tries grids from coarse to fine. Seventeen digits always suffice. -/
def Rounding.search (r : Rounding) (order : Int) : Nat → Nat → Decimal
  | 0, n => ⟨r.exact / r.den, n⟩
  | fuel + 1, n =>
    let unit := order - n
    match r.onGrid unit with
    | some d => ⟨d, unit⟩
    | none => r.search order fuel (n + 1)

/-- Shortest decimal of a finite positive number. -/
def shortest (x : Binary64) : Decimal :=
  let r := x.rounding
  r.search (decimalOrder r.exact r.den) 18 0

/-- Digits without zeros at either end, and the power of ten of the first digit. -/
def shortestDigits (x : Binary64) : List Char × Int :=
  let d := x.shortest
  let cs := Nat.toDigits 10 d.digits
  ((cs.reverse.dropWhile (· == '0')).reverse, d.exponent + cs.length - 1)

/-- Digits with the point after the place of `10 ^ 0`, zeros filling up on either side. -/
def positional (cs : List Char) (order : Int) : List Char × List Char :=
  if order < 0 then (['0'], List.replicate (-order - 1).toNat '0' ++ cs)
  else
    let n := order.toNat + 1
    (cs.take n ++ List.replicate (n - cs.length) '0', cs.drop n)

def signChars (x : Binary64) : List Char := if x.isNegative then ['-'] else []

/-- Plain notation: never an exponent, no point in an integer, a sign also on zero. -/
def plain (x : Binary64) : List Char :=
  if x.isNaN then ['N', 'a', 'N']
  else if !x.isFinite then x.signChars ++ ['i', 'n', 'f']
  else if x.magnitude = 0 then x.signChars ++ ['0']
  else
    let (cs, order) := x.shortestDigits
    let (whole, fraction) := positional cs order
    x.signChars ++ whole ++ (if fraction.isEmpty then [] else '.' :: fraction)

/-- Scientific notation where the order of magnitude is below -5 or above 15, otherwise positional with
at least one digit after the point. `mark` stands before an exponent that is not negative. -/
def scientificWith (mark : List Char) (x : Binary64) : List Char :=
  if x.magnitude = 0 then x.signChars ++ ['0', '.', '0']
  else
    let (cs, order) := x.shortestDigits
    if -5 ≤ order ∧ order < 16 then
      let (whole, fraction) := positional cs order
      x.signChars ++ whole ++ '.' :: (if fraction.isEmpty then ['0'] else fraction)
    else
      let mark := if order < 0 then ['e', '-'] else mark
      x.signChars ++ cs.take 1 ++ (if cs.length ≤ 1 then [] else '.' :: cs.drop 1) ++ mark
        ++ Nat.toDigits 10 order.natAbs

/-- Scientific notation with a sign on every exponent. -/
def scientific (x : Binary64) : List Char := x.scientificWith ['e', '+']

end MockSchema.Binary64
