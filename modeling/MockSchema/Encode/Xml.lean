import MockSchema.Unicode.Property
import MockSchema.Value.Display

/-!
# XML texts

The members of an object become elements without a common root; any other value is wrapped into one. A list
repeats its element for each item. A text is a list of lines, which are written one after the other or each
on a line of its own.
-/

namespace MockSchema.Xml

/-- Key of an object that is no element name. -/
structure NameError where
  name : String
  deriving DecidableEq, Repr

/-- A letter or an underscore, then letters, digits, hyphens, points and underscores. -/
def isName (name : List Char) : Bool :=
  match name with
  | [] => false
  | c :: r =>
    (Unicode.isAlphabetic c || c = '_') &&
      r.all fun d => Unicode.isAlphanumeric d || d = '-' || d = '.' || d = '_'

def escape (c : Char) : List Char :=
  if c = '&' then ['&', 'a', 'm', 'p', ';']
  else if c = '<' then ['&', 'l', 't', ';']
  else if c = '>' then ['&', 'g', 't', ';']
  else if c = '"' then ['&', 'q', 'u', 'o', 't', ';']
  else if c = '\'' then ['&', 'a', 'p', 'o', 's', ';']
  else [c]

/-- A piece of output that may stand on a line of its own. -/
structure Line where
  depth : Nat
  text : List Char
  deriving DecidableEq, Repr

def openTag (name : List Char) : List Char := '<' :: name ++ ['>']

def closeTag (name : List Char) : List Char := '<' :: '/' :: name ++ ['>']

def emptyTag (name : List Char) : List Char := '<' :: name ++ ['/', '>']

/-- A scalar with its tags. -/
def textLine (name : List Char) (depth : Nat) (text : List Char) : Line :=
  ⟨depth, openTag name ++ text.flatMap escape ++ closeTag name⟩

def checkName (name : String) : Except NameError Unit :=
  if isName name.toList then .ok () else .error ⟨name⟩

mutual

/-- The lines of a value as elements of one name. The name is checked even where no element is written. -/
def element (name : String) (depth : Nat) : Value → Except NameError (List Line)
  | .array items => do
    checkName name
    elements name depth items
  | .null => do
    checkName name
    return [⟨depth, emptyTag name.toList⟩]
  | .object [] => do
    checkName name
    return [⟨depth, emptyTag name.toList⟩]
  | .object fields => do
    checkName name
    let inner ← members (depth + 1) fields
    return ⟨depth, openTag name.toList⟩ :: inner ++ [⟨depth, closeTag name.toList⟩]
  | .bool b => do
    checkName name
    return [textLine name.toList depth (Value.boolChars b)]
  | .int i => do
    checkName name
    return [textLine name.toList depth (Value.intChars i.toInt)]
  | .float x => do
    checkName name
    return [textLine name.toList depth x.plain]
  | .string s => do
    checkName name
    return [textLine name.toList depth s.toList]

def elements (name : String) (depth : Nat) : List Value → Except NameError (List Line)
  | [] => .ok []
  | v :: rest => do
    let a ← element name depth v
    let b ← elements name depth rest
    return a ++ b

def members (depth : Nat) : List (String × Value) → Except NameError (List Line)
  | [] => .ok []
  | (k, v) :: rest => do
    let a ← element k depth v
    let b ← members depth rest
    return a ++ b

end

/-- The name of the element around a value that is no object. -/
def rootName : String := "value"

def lines : Value → Except NameError (List Line)
  | .object fields => members 0 fields
  | v => element rootName 0 v

/-- Lines one after the other. -/
def joinCompact (ls : List Line) : List Char := ls.flatMap Line.text

def Line.indented (l : Line) : List Char := List.replicate (4 * l.depth) ' ' ++ l.text

/-- Indented lines with line feeds between them. -/
def joinPretty : List Line → List Char
  | [] => []
  | [l] => l.indented
  | l :: rest => l.indented ++ '\n' :: joinPretty rest

def chars (pretty : Bool) (v : Value) : Except NameError (List Char) := do
  let ls ← lines v
  return if pretty then joinPretty ls else joinCompact ls

/-- The XML text of a value. -/
def write (pretty : Bool) (v : Value) : Except NameError String := do
  return String.ofList (← chars pretty v)

end MockSchema.Xml
