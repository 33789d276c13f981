import MockSchema.Yaml.Token.Basic

/-!
# Nodes of YAML documents

The tree of a document as written: scalars are texts still, and aliases point to anchored nodes by number.
-/

namespace MockSchema.Yaml

inductive Node where
  | scalar (tag : Option (List Char)) (style : ScalarStyle) (text : List Char)
  | sequence (tag : Option (List Char)) (items : List Node)
  | mapping (tag : Option (List Char)) (entries : List (Node × Node))
  | alias (number : Nat)
  deriving Repr, Inhabited

namespace Node

/-- What stands where a value is left out. -/
def blank : Node := .scalar none .plain []

mutual

/-- Number of steps that reading the node takes; a collection has a start and an end. -/
def size : Node → Nat
  | .scalar .. => 1
  | .sequence _ items => sizeOfItems items + 2
  | .mapping _ entries => sizeOfEntries entries + 2
  | .alias _ => 1

def sizeOfItems : List Node → Nat
  | [] => 0
  | n :: rest => size n + sizeOfItems rest

def sizeOfEntries : List (Node × Node) → Nat
  | [] => 0
  | (k, v) :: rest => size k + size v + sizeOfEntries rest

end

end Node

/-- A document: its root, unless the text has no document at all, and the anchored nodes by number. -/
structure Document where
  root : Option Node
  anchored : List (Nat × Node)
  deriving Repr, Inhabited

end MockSchema.Yaml
