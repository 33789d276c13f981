import MockSchema.Binary64.Shortest
import MockSchema.Text.Quoted
import MockSchema.Value.Display

/-!
# Values of YAML documents

What a document means once scalars are resolved. Tags that are not part of the language are kept.
-/

namespace MockSchema.Yaml

/-- Integers reach from the least signed to the greatest unsigned word. -/
inductive Number where
  | int (i : Int)
  | float (x : Binary64)
  deriving DecidableEq, Repr, Inhabited

inductive Value where
  | null
  | bool (b : Bool)
  | number (n : Number)
  | string (s : String)
  | sequence (items : List Value)
  | mapping (entries : List (Value × Value))
  | tagged (tag : String) (v : Value)
  deriving Repr, Inhabited

/-- Integers and floats are never equal; a NaN equals itself. -/
def Number.same : Number → Number → Bool
  | .int i, .int j => i == j
  | .float x, .float y => (x.isNaN && y.isNaN) || x.same y
  | _, _ => false

def Number.chars : Number → List Char
  | .int i => MockSchema.Value.intChars i
  | .float x =>
    if x.isNaN then ['.', 'n', 'a', 'n']
    else if x.isFinite then x.scientificWith ['e'] else x.signChars ++ ['.', 'i', 'n', 'f']

namespace Value

mutual

/-- Equality of values; the order of entries in a mapping does not count. -/
def same : Value → Value → Bool
  | .null, .null => true
  | .bool a, .bool b => a == b
  | .number a, .number b => a.same b
  | .string a, .string b => a == b
  | .sequence as, .sequence bs => sameItems as bs
  | .mapping as, .mapping bs => as.length == bs.length && areEntries as bs
  | .tagged t a, .tagged u b => t == u && same a b
  | _, _ => false

def sameItems : List Value → List Value → Bool
  | [], [] => true
  | a :: as, b :: bs => same a b && sameItems as bs
  | _, _ => false

/-- Every entry of the first mapping has an equal one in the second. -/
def areEntries : List (Value × Value) → List (Value × Value) → Bool
  | [], _ => true
  | (k, v) :: rest, bs => (bs.any fun e => same k e.1 && same v e.2) && areEntries rest bs

end

/-- No two keys are equal. -/
def distinct : List Value → Bool
  | [] => true
  | k :: rest => !rest.any (same k) && distinct rest

mutual

/-- No mapping at any depth has two equal keys. -/
def isProper : Value → Bool
  | .sequence items => areProper items
  | .mapping entries => entriesProper entries && distinct (entries.map Prod.fst)
  | .tagged _ v => isProper v
  | _ => true

def areProper : List Value → Bool
  | [] => true
  | v :: rest => isProper v && areProper rest

def entriesProper : List (Value × Value) → Bool
  | [] => true
  | (k, v) :: rest => isProper k && isProper v && entriesProper rest

end

def nameChars (name : String) (inner : List Char) : List Char := name.toList ++ '(' :: inner ++ [')']

mutual

/-- A value with its kind, as messages show it. -/
def describe : Value → List Char
  | .null => "Null".toList
  | .bool b => nameChars "Bool" (MockSchema.Value.boolChars b)
  | .number n => nameChars "Number" n.chars
  | .string s => nameChars "String" (Text.quote s.toList)
  | .sequence items =>
    "Sequence [".toList ++ MockSchema.Value.separated (describeItems items) ++ [']']
  | .mapping entries =>
    "Mapping ".toList ++ '{' :: MockSchema.Value.separated (describeEntries entries) ++ ['}']
  | .tagged tag v =>
    "TaggedValue ".toList ++ '{' :: " tag: !".toList ++ tag.toList ++ ", value: ".toList ++
      describe v ++ [' ', '}']

def describeItems : List Value → List (List Char)
  | [] => []
  | v :: rest => describe v :: describeItems rest

/-- Entries of a mapping; scalars that are keys stand without their kind. -/
def describeEntries : List (Value × Value) → List (List Char)
  | [] => []
  | (k, v) :: rest => (describeKey k ++ [':', ' '] ++ describe v) :: describeEntries rest

def describeKey : Value → List Char
  | .bool b => MockSchema.Value.boolChars b
  | .number n => n.chars
  | .string s => Text.quote s.toList
  | v => describe v

end

end Value

end MockSchema.Yaml
