import MockSchema.Pattern.Expr
import MockSchema.Pattern.Settings
import MockSchema.Random.Gen

/-!
# Texts from expressions

A text is drawn by walking an expression from left to right: one draw for each choice, each class and each
count, nothing for what leaves no choice.
-/

namespace MockSchema.Pattern

variable {σ : Type} [RandomSource σ]

/-- Bounds for the number of repetitions, both included. Without an upper bound the limit of the settings
applies, counted from the lower bound where that is above one; no count needs more than 32 bits. The
interval is empty only for the greatest of all lower bounds. -/
def countBounds (settings : Settings) (counts : Counts) : Nat × Nat :=
  let limit := settings.maxRepeat.toNat
  let min := counts.min.toNat
  match counts.max with
  | some n => (min, n.toNat)
  | none =>
    if min ≤ 1 then (min, limit - 1)
    else (min, Nat.min (min + limit) (UInt32.size - 1) - 1)

/-- How often to repeat. An optional part has its own probability. -/
def drawCount (settings : Settings) (counts : Counts) : Gen σ Nat :=
  if counts = .optional then do
    return if ← Random.chance settings.optionalProbability then 1 else 0
  else
    let (low, high) := countBounds settings counts
    Random.between32 low high

/-- One member of a class; nothing from a class without members. -/
def drawMember (set : CharSet) : Gen σ (List Char) :=
  if set.count = 0 then pure []
  else do
    let place ← Random.below32 set.count
    return (set.get? place).toList

namespace Expr

mutual

def sample (settings : Settings) : Expr → Gen σ (List Char)
  | .empty => pure []
  | .look _ => pure []
  | .literal s => pure s
  | .class _ set => drawMember set
  | .repetition counts _ sub => do
    let count ← drawCount settings counts
    return (← Gen.times (sub.sample settings) count).flatten
  | .capture _ _ sub => sub.sample settings
  | .concat parts => sampleAll settings parts
  | .alternation [] => pure []
  | .alternation branches => do
    sampleAt settings branches (← Random.belowLength branches.length)

def sampleAll (settings : Settings) : List Expr → Gen σ (List Char)
  | [] => pure []
  | e :: rest => do
    let s ← e.sample settings
    let t ← sampleAll settings rest
    return s ++ t

/-- A text of the branch at a place. -/
def sampleAt (settings : Settings) : List Expr → Nat → Gen σ (List Char)
  | [], _ => pure []
  | e :: _, 0 => e.sample settings
  | _ :: rest, n + 1 => sampleAt settings rest n

end

end Expr

end MockSchema.Pattern
