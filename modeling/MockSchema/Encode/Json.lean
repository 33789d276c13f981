import MockSchema.Value.Display

/-!
# JSON texts

A value as JSON, on one line or with an indentation of four spaces. Floats that are no numbers are written as
null; all others have a fraction or an exponent.
-/

namespace MockSchema.Json

/-- The written form of a character inside a string: only the quote, the backslash and controls are
escaped. -/
def escape (c : Char) : List Char :=
  if c = '"' ∨ c = '\\' then ['\\', c]
  else if c = '\n' then ['\\', 'n']
  else if c = '\t' then ['\\', 't']
  else if c = '\r' then ['\\', 'r']
  else if c = '\x08' then ['\\', 'b']
  else if c = '\x0c' then ['\\', 'f']
  else if c.toNat < 0x20 then
    ['\\', 'u', '0', '0', Nat.digitChar (c.toNat / 16), Nat.digitChar (c.toNat % 16)]
  else [c]

def string (cs : List Char) : List Char := '"' :: cs.flatMap escape ++ ['"']

def float (x : Binary64) : List Char := if x.isFinite then x.scientific else Value.nullChars

/-- How parts of a container are set apart: on one line, or on lines of their own at a depth. -/
inductive Layout where
  | compact
  | pretty (depth : Nat)
  deriving DecidableEq, Repr

namespace Layout

def ofPretty (pretty : Bool) : Layout := if pretty then .pretty 0 else .compact

/-- The layout inside a container. -/
def deeper : Layout → Layout
  | .compact => .compact
  | .pretty depth => .pretty (depth + 1)

/-- What stands before a part and before the closing bracket. -/
def lineStart : Layout → List Char
  | .compact => []
  | .pretty depth => '\n' :: List.replicate (4 * depth) ' '

def colon : Layout → List Char
  | .compact => [':']
  | .pretty _ => [':', ' ']

end Layout

/-- Parts with commas between them. -/
def joinParts (layout : Layout) : List (List Char) → List Char
  | [] => []
  | [part] => layout.lineStart ++ part
  | part :: rest => layout.lineStart ++ part ++ ',' :: joinParts layout rest

/-- Parts between brackets; an empty container has nothing between them. -/
def container (layout : Layout) (first last : Char) (parts : List (List Char)) : List Char :=
  if parts.isEmpty then [first, last]
  else first :: joinParts layout.deeper parts ++ layout.lineStart ++ [last]

mutual

def chars (layout : Layout) : Value → List Char
  | .null => Value.nullChars
  | .bool b => Value.boolChars b
  | .int i => Value.intChars i.toInt
  | .float x => float x
  | .string s => string s.toList
  | .array items => container layout '[' ']' (itemChars layout.deeper items)
  | .object fields => container layout '{' '}' (fieldChars layout.deeper fields)

def itemChars (layout : Layout) : List Value → List (List Char)
  | [] => []
  | v :: rest => chars layout v :: itemChars layout rest

def fieldChars (layout : Layout) : List (String × Value) → List (List Char)
  | [] => []
  | (k, v) :: rest =>
    (string k.toList ++ layout.colon ++ chars layout v) :: fieldChars layout rest

end

/-- The JSON text of a value. -/
def write (pretty : Bool) (v : Value) : String := String.ofList (chars (.ofPretty pretty) v)

end MockSchema.Json
