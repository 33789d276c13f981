import Mathlib.Algebra.Group.Nat.Defs
import MockSchema.Generator.Basic

/-!
# Where generation stalls

A repetition without upper bound is drawn from an interval that begins at its least count and ends where
32 bits end. If the least count is the greatest number of 32 bits there is nothing in that interval. An
expression, a generator or a node stalls if such a repetition can come up in it: behind a count that may be
positive, in a branch that may be picked, in a list that may have elements.
-/

namespace MockSchema

namespace Random

/-- A place in a list of the given length that some words lead to. Only a list with more members than there
are words could have other places. -/
def CanPick (length place : Nat) : Prop :=
  place < length ∧
    (UInt64.size < length → ∃ first second : UInt64, reduce 64 length first.toNat second.toNat = place)

/-- The least word that reaches a place leaves less than a whole range behind it. -/
theorem exists_first {modulus range place : Nat} (few : range ≤ modulus) (inside : place < range) :
    ∃ first < modulus, first * range / modulus = place := by
  have positive : 0 < range := by omega
  have most : (place + 1) * modulus ≤ range * modulus := Nat.mul_le_mul_right modulus inside
  rw [Nat.add_mul, Nat.one_mul] at most
  refine ⟨(place * modulus + (range - 1)) / range, ?_, ?_⟩
  · rw [Nat.div_lt_iff_lt_mul positive, Nat.mul_comm modulus]
    omega
  · have above := Nat.lt_div_mul_add (a := place * modulus + (range - 1)) positive
    have below := Nat.div_mul_le_self (place * modulus + (range - 1)) range
    rw [Nat.div_eq_iff (by omega)]
    constructor <;> omega

/-- Without a second word there is no carry. -/
theorem reduce_zero (width range first : Nat) :
    reduce width range first 0 = first * range / 2 ^ width := by
  have low := Nat.mod_lt (first * range) (Nat.two_pow_pos width)
  unfold reduce
  simp only [Nat.pow_eq, Nat.zero_mul, Nat.zero_div, Nat.add_zero]
  rw [if_neg (by omega)]

theorem canPick {length place : Nat} (few : length ≤ UInt64.size) (inside : place < length) :
    CanPick length place :=
  ⟨inside, fun many => absurd few (Nat.not_le.mpr many)⟩

end Random

namespace Pattern

/-- There is no count to draw. -/
def Counts.IsDry (counts : Counts) : Prop :=
  counts.min.toNat = UInt32.size - 1 ∧ counts.max = none

/-- A positive count may be drawn. An optional part needs a probability that some word is below. -/
def Counts.MayRepeat (settings : Settings) (counts : Counts) : Prop :=
  if counts = .optional then 0 < settings.optionalProbability.floorScaled 64
  else counts.max ≠ some 0

namespace Expr

variable (settings : Settings)

mutual

/-- A repetition without a count to draw may come up. -/
def Stalls : Expr → Prop
  | .repetition counts _ sub => counts.IsDry ∨ counts.MayRepeat settings ∧ sub.Stalls
  | .capture _ _ sub => sub.Stalls
  | .concat parts => OneStalls parts
  | .alternation branches =>
    ∃ place, Random.CanPick branches.length place ∧ StallsAt branches place
  | _ => False

def OneStalls : List Expr → Prop
  | [] => False
  | e :: rest => e.Stalls ∨ OneStalls rest

/-- The branch at a place stalls. -/
def StallsAt : List Expr → Nat → Prop
  | [], _ => False
  | e :: _, 0 => e.Stalls
  | _ :: rest, place + 1 => StallsAt rest place

end

end Expr

def Stalls (p : Pattern) : Prop := p.expr.Stalls p.settings

end Pattern

def Generator.Stalls : Generator → Prop
  | .pattern p => p.Stalls
  | _ => False

namespace Node

mutual

/-- A repetition without a count to draw may come up. -/
def Stalls : Node Generator → Prop
  | .object members => OneStalls members
  | .array length element => (∀ r ∈ length, 0 < r.max) ∧ element.Stalls
  | .template t => ∃ p ∈ t.params, p.handle.Stalls
  | .terminal t => t.handle.Stalls
  | .pattern p => p.Stalls
  | _ => False

def OneStalls : List (String × Node Generator) → Prop
  | [] => False
  | (_, node) :: rest => node.Stalls ∨ OneStalls rest

end

end Node

def Schema.Stalls (s : Schema Generator) : Prop := ∃ root ∈ s.root, root.Stalls

end MockSchema
