import MockSchema.Pattern.Compiled
import MockSchema.Value.Basic

/-!
# Schemas

A schema is a tree whose leaves say how to produce values. What a name stands for was looked up when the
schema was read; the handle found then is part of the tree, so the type of handles is a parameter.
-/

namespace MockSchema

/-- The integers between two bounds, both included; there is at least one. -/
structure Range where
  min : Int64
  max : Int64
  min_le_max : min ≤ max
  deriving DecidableEq, Repr

namespace Range

/-- The range with the given bounds, unless they are in the wrong order. -/
def of? (min max : Int64) : Option Range := if h : min ≤ max then some ⟨min, max, h⟩ else none

/-- The range with one member. -/
def fixed (n : Int64) : Range := ⟨n, n, Int64.le_refl n⟩

end Range

/-- A constant leaf. -/
inductive Literal where
  | null
  | bool (b : Bool)
  | int (i : Int64)
  | float (x : Binary64)
  | string (s : String)
  deriving DecidableEq, Repr, Inhabited

def Literal.toValue : Literal → Value
  | .null => .null
  | .bool b => .bool b
  | .int i => .int i
  | .float x => .float x
  | .string s => .string s

/-- A name with the handle that it stood for when the schema was read. -/
structure Terminal (η : Type) where
  name : String
  handle : η
  deriving DecidableEq, Repr, Inhabited

/-- A part of a template: text, or the parameter at a place in the list of parameters. -/
inductive Segment where
  | text (s : String)
  | param (index : Nat)
  deriving DecidableEq, Repr

/-- A text with places for values. `raw` is the text as written. -/
structure Template (η : Type) where
  raw : String
  segments : List Segment
  params : List (Terminal η)
  deriving DecidableEq, Repr, Inhabited

/-- A node of a schema. The members of an object are kept as written, repeated keys included. A list
without range has one element. -/
inductive Node (η : Type) where
  | object (members : List (String × Node η))
  | array (length : Option Range) (element : Node η)
  | emptyArray
  | range (r : Range)
  | template (t : Template η)
  | literal (l : Literal)
  | terminal (t : Terminal η)
  | pattern (p : Pattern)
  deriving Inhabited

/-- A schema may be empty. -/
structure Schema (η : Type) where
  root : Option (Node η)
  deriving Inhabited

def Schema.empty {η : Type} : Schema η := ⟨none⟩

end MockSchema
