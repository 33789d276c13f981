/-!
# Integers in text

An optional sign and digits. What does not fit is refused, never wrapped.
-/

namespace MockSchema.Text

/-- Value of a digit in bases up to sixteen. -/
def digit? (base : Nat) (c : Char) : Option Nat :=
  let value :=
    if '0' ≤ c ∧ c ≤ '9' then c.toNat - '0'.toNat
    else if 'a' ≤ c ∧ c ≤ 'f' then c.toNat - 'a'.toNat + 10
    else if 'A' ≤ c ∧ c ≤ 'F' then c.toNat - 'A'.toNat + 10
    else base
  if value < base then some value else none

/-- A number of at least one digit. -/
def readNat? (base : Nat) (cs : List Char) : Option Nat :=
  if cs.isEmpty then none
  else cs.foldlM (fun n c => (digit? base c).map fun d => base * n + d) 0

/-- A number with an optional sign in front. -/
def readInt? (base : Nat) : List Char → Option Int
  | '-' :: r => (readNat? base r).map fun n => -(n : Int)
  | '+' :: r => (readNat? base r).map fun n => (n : Int)
  | r => (readNat? base r).map fun n => (n : Int)

/-- The word for an integer that fits. -/
def toInt64? (i : Int) : Option Int64 :=
  if Int64.minValue.toInt ≤ i ∧ i ≤ Int64.maxValue.toInt then some (Int64.ofInt i) else none

def readInt64? (cs : List Char) : Option Int64 := (readInt? 10 cs).bind toInt64?

/-- A number below `2 ^ width`, with an optional plus sign. -/
def readWord? (width : Nat) (cs : List Char) : Option Nat :=
  let digits := match cs with
    | '+' :: r => r
    | r => r
  (readNat? 10 digits).bind fun n => if n < Nat.pow 2 width then some n else none

end MockSchema.Text
