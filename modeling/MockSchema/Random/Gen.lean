import MockSchema.Binary64.Basic
import MockSchema.Random.Source

/-!
# Draws

A draw either gives a result or fails, and in both cases leaves a state behind. Ranges are reduced from
one word by a widening product; a second word decides the rare carry, so every draw takes at most two.
-/

namespace MockSchema

/-- Why a value could not be produced: a generator gave up with a message, passed on a failure from
elsewhere, or a draw was asked for that no word can give, such as one from an interval without members. -/
inductive Failure where
  | message (text : String)
  | other (text : String)
  | emptyInterval
  deriving DecidableEq, Repr

def Failure.text : Failure → String
  | .message t => t
  | .other t => t
  | .emptyInterval => "empty interval"

/-- A computation on a state that may fail; the state after a failure is kept. -/
abbrev Gen (σ : Type) (α : Type) := ExceptT Failure (StateM σ) α

namespace Gen

variable {σ α : Type}

/-- The result and the state that is left. -/
def runFrom (g : Gen σ α) (s : σ) : Except Failure α × σ := g.run s

def step (f : σ → α × σ) : Gen σ α := fun s => let (a, s') := f s; (.ok a, s')

def fail (e : Failure) : Gen σ α := throw e

/-- Repeats a draw and collects the results in order. -/
def times (g : Gen σ α) : Nat → Gen σ (List α)
  | 0 => pure []
  | n + 1 => do
    let a ← g
    let rest ← times g n
    pure (a :: rest)

/-- Draws from each in order and collects the results. -/
def each {β : Type} (f : β → Gen σ α) : List β → Gen σ (List α)
  | [] => pure []
  | b :: rest => do
    let a ← f b
    let as ← each f rest
    pure (a :: as)

end Gen

namespace Random

variable {σ : Type} [RandomSource σ]

/-- Reduces words of `2 ^ width` to a range: the high half of the product, and a carry from a second
word where the low half leaves it open. -/
def reduce (width range first second : Nat) : Nat :=
  let modulus := Nat.pow 2 width
  let high := first * range / modulus
  let low := first * range % modulus
  if modulus - range < low ∧ modulus ≤ low + second * range / modulus then high + 1 else high

/-- Whether the first word leaves the carry open. -/
def needsSecond (width range first : Nat) : Bool :=
  decide (Nat.pow 2 width - range < first * range % Nat.pow 2 width)

/-- A number below a positive range, from one or two words. -/
def reduced (width range : Nat) (word : σ → Nat × σ) (s : σ) : Nat × σ :=
  let (first, s') := word s
  if needsSecond width range first then
    let (second, s'') := word s'
    (reduce width range first second, s'')
  else (reduce width range first 0, s')

def word32 (s : σ) : Nat × σ := let (w, s') := RandomSource.next32 s; (w.toNat, s')

def word64 (s : σ) : Nat × σ := let (w, s') := RandomSource.next64 s; (w.toNat, s')

/-- A number below `range`, from short words; an empty range fails. A range of all words takes the word
as it is. -/
def below32 (range : Nat) : Gen σ Nat :=
  if range = 0 then Gen.fail .emptyInterval
  else if range = UInt32.size then Gen.step word32
  else Gen.step (reduced 32 range word32)

/-- A number between two bounds, both included, from short words. -/
def between32 (low high : Nat) : Gen σ Nat :=
  if high < low then Gen.fail .emptyInterval
  else do return low + (← below32 (high - low + 1))

/-- An integer between two bounds, both included, from long words. The range of all integers takes the
word as it is. -/
def between64 (low high : Int64) : Gen σ Int64 :=
  if high < low then Gen.fail .emptyInterval
  else
    let range := (high.toInt - low.toInt + 1).toNat
    if range = UInt64.size then Gen.step fun s => let (w, s') := RandomSource.next64 s; (w.toInt64, s')
    else Gen.step fun s =>
      let (n, s') := reduced 64 range word64 s
      (low + Int64.ofNat n, s')

/-- True with the given probability; a number that is none fails. Certainty takes no word; otherwise the
word is compared with the probability scaled to words. -/
def chance (p : Binary64) : Gen σ Bool :=
  if p = .one then pure true
  else if !p.isProbability then Gen.fail .emptyInterval
  else Gen.step fun s => let (w, s') := word64 s; (decide (w < p.floorScaled 64), s')

/-- A number between two bounds in order whose difference is finite, or a failure: 52 bits of a word as a
fraction, scaled and shifted, each step rounded. -/
def betweenFloats (low high : Binary64) : Gen σ Binary64 :=
  if !low.le high || !(high.sub low).isFinite then Gen.fail .emptyInterval
  else Gen.step fun s =>
    let (w, s') := word64 s
    let unit := Binary64.ofDyadic false (w / 4096) (-52)
    ((unit.mul (high.sub low)).add low, s')

/-- A place in a list of the given length, from short words as long as they can name every place, and from
long ones for a longer list. -/
def belowLength (length : Nat) : Gen σ Nat :=
  if length ≤ UInt32.size then below32 length else Gen.step (reduced 64 length word64)

/-- One of the members of a list. -/
def pick {α : Type} (members : List α) : Gen σ α := do
  let i ← belowLength members.length
  match members[i]? with
  | some a => pure a
  | none => Gen.fail .emptyInterval

end Random

end MockSchema
