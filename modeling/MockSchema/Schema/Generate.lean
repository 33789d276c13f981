import MockSchema.Schema.Basic
import MockSchema.Value.Display

/-!
# Values from schemas

A schema is walked in the order in which it is written. Names are turned into values by a function on
handles, which may draw, fail, and use any state beside the random source.
-/

namespace MockSchema

variable {σ : Type} [RandomSource σ]

/-- A member of a range. The only member of a range of one is not drawn. -/
def Range.draw (r : Range) : Gen σ Int64 :=
  if r.min = r.max then pure r.min else Random.between64 r.min r.max

/-- The number of elements of a list; one without a range, and none for a negative number. -/
def drawLength : Option Range → Gen σ Nat
  | none => pure 1
  | some r => do return (← r.draw).toInt.toNat

/-- The text of a segment, with the values of the parameters. -/
def Segment.fill (values : List Value) : Segment → List Char
  | .text s => s.toList
  | .param i => (values[i]?.map Value.display).getD []

namespace Template

variable {η : Type}

/-- The text with values put into its places. Without parameters it is the text as written. -/
def fill (t : Template η) (values : List Value) : String :=
  if t.params.isEmpty then t.raw else String.ofList (t.segments.flatMap (Segment.fill values))

/-- Draws every parameter once, from left to right. -/
def generate (call : η → Gen σ Value) (t : Template η) : Gen σ String := do
  let values ← Gen.each (fun p => call p.handle) t.params
  return t.fill values

end Template

namespace Node

variable {η : Type}

mutual

/-- One value of the node. -/
def generate (call : η → Gen σ Value) : Node η → Gen σ Value
  | .object members => do return .object (Entries.ofPairs (← generateMembers call members))
  | .array length element => do
    let count ← drawLength length
    return .array (← Gen.times (element.generate call) count)
  | .emptyArray => pure (.array [])
  | .range r => do return .int (← r.draw)
  | .template t => do return .string (← t.generate call)
  | .literal l => pure l.toValue
  | .terminal t => call t.handle
  | .pattern p => do return .string (← p.draw)

/-- The members of an object in the order in which they are written. -/
def generateMembers (call : η → Gen σ Value) : List (String × Node η) → Gen σ (List (String × Value))
  | [] => pure []
  | (key, node) :: rest => do
    let v ← node.generate call
    let vs ← generateMembers call rest
    return (key, v) :: vs

end

end Node

/-- One value of the schema; null for the empty one. -/
def Schema.generate {η : Type} (call : η → Gen σ Value) (s : Schema η) : Gen σ Value :=
  match s.root with
  | some root => root.generate call
  | none => pure .null

end MockSchema
