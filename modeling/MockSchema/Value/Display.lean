import MockSchema.Binary64.Shortest
import MockSchema.Text.Quoted
import MockSchema.Value.Basic

/-!
# The text of a value

How a value reads where it is put into a text. A string stands there as it is; strings inside lists and
objects are quoted, so the text of a container can be taken apart again.
-/

namespace MockSchema.Value

def intChars (i : Int) : List Char :=
  if i < 0 then '-' :: Nat.toDigits 10 i.natAbs else Nat.toDigits 10 i.natAbs

def boolChars (b : Bool) : List Char := if b then ['t', 'r', 'u', 'e'] else ['f', 'a', 'l', 's', 'e']

def nullChars : List Char := ['n', 'u', 'l', 'l']

/-- Items with a comma and a space between them. -/
def separated : List (List Char) → List Char
  | [] => []
  | [item] => item
  | item :: rest => item ++ [',', ' '] ++ separated rest

mutual

/-- The text of a value inside a container. -/
def nested : Value → List Char
  | .null => nullChars
  | .bool b => boolChars b
  | .int i => intChars i.toInt
  | .float x => x.plain
  | .string s => Text.quote s.toList
  | .array items => '[' :: separated (nestedItems items) ++ [']']
  | .object fields => '{' :: separated (nestedFields fields) ++ ['}']

def nestedItems : List Value → List (List Char)
  | [] => []
  | v :: rest => nested v :: nestedItems rest

def nestedFields : List (String × Value) → List (List Char)
  | [] => []
  | (k, v) :: rest => (Text.quote k.toList ++ [':', ' '] ++ nested v) :: nestedFields rest

end

/-- The text of a value on its own: a string bare, everything else as inside a container. -/
def display : Value → List Char
  | .string s => s.toList
  | v => nested v

def displayText (v : Value) : String := String.ofList v.display

end MockSchema.Value
