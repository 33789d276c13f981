import MockSchema.Binary64.Decimal
import MockSchema.Text.Integer
import MockSchema.Yaml.Token.Basic
import MockSchema.Yaml.Value.Basic

/-!
# What scalars mean

A plain scalar is null, a boolean, an integer or a float if it is written like one, and otherwise a string.
A tag of the language asks for one of these; other scalars are strings.
-/

namespace MockSchema.Yaml

/-- Tags of the language. -/
inductive CoreTag where
  | null | bool | int | float
  deriving DecidableEq, Repr

def CoreTag.ofText? (tag : List Char) : Option CoreTag :=
  match String.ofList tag with
  | "tag:yaml.org,2002:null" => some .null
  | "tag:yaml.org,2002:bool" => some .bool
  | "tag:yaml.org,2002:int" => some .int
  | "tag:yaml.org,2002:float" => some .float
  | _ => none

/-- The name of a tag outside of the language: what follows the exclamation mark. -/
def localTag? (tag : Option (List Char)) : Option String :=
  match tag with
  | some ['!'] => some "!"
  | some ('!' :: name) => some (String.ofList name)
  | _ => none

def isNullText (text : List Char) : Bool :=
  String.ofList text ∈ ["null", "Null", "NULL", "~"]

def readBool? (text : List Char) : Option Bool :=
  match String.ofList text with
  | "true" | "True" | "TRUE" => some true
  | "false" | "False" | "FALSE" => some false
  | _ => none

/-- Digits behind a zero, with or without a sign. They are no number. -/
def hasLeadingZero (text : List Char) : Bool :=
  let digits := match text with
    | '-' :: r => r
    | '+' :: r => r
    | r => r
  match digits with
  | '0' :: d :: r => (d :: r).all Char.isDigit
  | _ => false

/-- Digits in a base that a letter behind a zero names. -/
def readBased? : List Char → Option Nat
  | '0' :: 'x' :: r => Text.readNat? 16 r
  | '0' :: 'o' :: r => Text.readNat? 8 r
  | '0' :: 'b' :: r => Text.readNat? 2 r
  | _ => none

/-- An integer of any size. -/
def readInt? (text : List Char) : Option Int :=
  let (negative, digits) : Bool × List Char := match text with
    | '-' :: r => (true, r)
    | '+' :: r => (false, r)
    | r => (false, r)
  let magnitude := (readBased? digits).or
    (if hasLeadingZero text then none else Text.readNat? 10 digits)
  magnitude.map fun n => if negative then -(n : Int) else n

/-- Integers that fit into a signed or unsigned word. -/
def isWord (i : Int) : Bool := decide (Int64.minValue.toInt ≤ i) && decide (i < UInt64.size)

/-- Integers beyond words that still count as integers; greater ones are read as floats. -/
def isLong (i : Int) : Bool := decide (-(Nat.pow 2 127) ≤ i) && decide (i < Nat.pow 2 128)

def readFloat? (text : List Char) : Option Binary64 :=
  let unsigned := match text with
    | '+' :: r => r
    | r => r
  match String.ofList text with
  | "-.inf" | "-.Inf" | "-.INF" => some (.infinity true)
  | ".nan" | ".NaN" | ".NAN" => some .nan
  | _ =>
    match String.ofList unsigned with
    | ".inf" | ".Inf" | ".INF" => some (.infinity false)
    | _ =>
      if text ≠ unsigned ∧ unsigned.head?.any (· ∈ ['+', '-']) then none
      else (Binary64.read? unsigned).filter Binary64.isFinite

/-- An integer that is too large for a word is refused. -/
def wordValue (i : Int) : Option Value := if isWord i then some (.number (.int i)) else none

/-- The value of a plain scalar without a tag of the language. -/
def plainValue (text : List Char) : Option Value :=
  if text.isEmpty || isNullText text then some .null
  else
    match readBool? text with
    | some b => some (.bool b)
    | none =>
      match (readInt? text).filter isLong with
      | some i => wordValue i
      | none =>
        match if hasLeadingZero text then none else readFloat? text with
        | some x => some (.number (.float x))
        | none => some (.string (String.ofList text))

/-- The value of a scalar. A tag of the language that does not fit is an error. -/
def scalarValue (tag : Option (List Char)) (style : ScalarStyle) (text : List Char) : Option Value :=
  match tag.map CoreTag.ofText? with
  | some (some .null) => if isNullText text then some .null else none
  | some (some .bool) => (readBool? text).map .bool
  | some (some .int) => ((readInt? text).filter isLong).bind wordValue
  | some (some .float) => (readFloat? text).map fun x => .number (.float x)
  | some none => some (.string (String.ofList text))
  | none => if style = .plain then plainValue text else some (.string (String.ofList text))

end MockSchema.Yaml
