import MockSchema.Pattern.Reader
import MockSchema.Text.Split

/-!
# Escapes in patterns

A backslash gives the next characters another meaning: a character by its code, a class, a condition on
the place, or a character that would otherwise be an operator.
-/

namespace MockSchema.Pattern

/-- Operators, which stand for themselves only behind a backslash. -/
def isMeta (c : Char) : Bool :=
  c ∈ ['\\', '.', '+', '*', '?', '(', ')', '|', '[', ']', '{', '}', '^', '$', '#', '&', '-', '~']

/-- Characters that may follow a backslash without need: ASCII except letters, digits and the angle
brackets, which have a meaning of their own. -/
def isEscapable (c : Char) : Bool :=
  isMeta c || (c.toNat < 0x80 && !c.isAlphanum && c ≠ '<' && c ≠ '>')

def isHexDigit (c : Char) : Bool :=
  c.isDigit || ('a' ≤ c && c ≤ 'f') || ('A' ≤ c && c ≤ 'F')

def hexDigitValue (c : Char) : Nat :=
  if c.isDigit then c.toNat - '0'.toNat
  else if 'a' ≤ c then c.toNat - 'a'.toNat + 10 else c.toNat - 'A'.toNat + 10

/-- The character with a code in hexadecimal digits. -/
def charOfHex? (digits : List Char) : Option Char :=
  let n := digits.foldl (fun n c => 16 * n + hexDigitValue c) 0
  if h : n.isValidChar then some (Char.ofNatAux n h) else none

open Reader

/-- A fixed number of hexadecimal digits; blanks between them are skipped, those behind are not
digits. -/
def hexDigits (first : Bool) : Nat → Reader (List Char)
  | 0 => return []
  | n + 1 => do
    if !first then
      if !(← bumpAndSkip) then fault .cutEscape (← here)
    match ← peek with
    | some c =>
      if !isHexDigit c then fault .notAHexDigit (← hereChar)
      return c :: (← hexDigits false n)
    | none => fault .cutEscape (← here)

def readHexFixed (start : Position) (count : Nat) : Reader Literal := do
  let digitStart ← position
  let ds ← hexDigits true count
  let _ ← bumpAndSkip
  match charOfHex? ds with
  | some c => return ⟨← extentFrom start, c, count = 2⟩
  | none => fault .notACodePoint (← extentFrom digitStart)

/-- Hexadecimal digits up to a closing brace. -/
def hexUntilBrace : Nat → Reader (List Char)
  | 0 => return []
  | fuel + 1 => do
    if !(← bumpAndSkip) then return []
    match ← peek with
    | some '}' => return []
    | some c =>
      if !isHexDigit c then fault .notAHexDigit (← hereChar)
      return c :: (← hexUntilBrace fuel)
    | none => return []

def readHexBraced (start : Position) : Reader Literal := do
  let bracePosition ← position
  let digitStart := (← hereChar).stop
  let ds ← hexUntilBrace (← rest).length
  if ← atEnd then fault .cutEscape (← extentFrom bracePosition)
  let digitEnd ← position
  let _ ← bumpAndSkip
  if ds.isEmpty then fault .noHexDigits (← extentFrom bracePosition)
  match charOfHex? ds with
  | some c => return ⟨← extentFrom start, c, false⟩
  | none => fault .notACodePoint ⟨digitStart, digitEnd⟩

/-- Reads a code behind its letter, which tells the number of digits: two, four or eight. -/
def readHex (start : Position) (letter : Char) : Reader Literal := do
  if !(← bumpAndSkip) then fault .cutEscape (← here)
  if (← peek) = some '{' then readHexBraced start
  else readHexFixed start (if letter = 'x' then 2 else if letter = 'u' then 4 else 8)

/-- Text up to a closing brace, blanks skipped. -/
def untilBrace : Nat → Reader (List Char)
  | 0 => return []
  | fuel + 1 => do
    if !(← bumpAndSkip) then return []
    match ← peek with
    | some '}' => return []
    | some c => return c :: (← untilBrace fuel)
    | none => return []

/-- A property name, alone or with a value behind one of three signs. -/
def queryOf (text : List Char) : Unicode.Query :=
  match Text.splitAtFirst ['!', '='] text with
  | some (a, b) => .value a b
  | none =>
    match Text.splitAtFirst [':'] text with
    | some (a, b) => .value a b
    | none =>
      match Text.splitAtFirst ['='] text with
      | some (a, b) => .value a b
      | none => .name text

/-- What an escape or a plain character stands for, before it is put into a sequence or a class. -/
inductive Primitive where
  | literal (l : Literal)
  | assertion (extent : Extent) (kind : Assertion)
  | dot (extent : Extent)
  | property (extent : Extent) (query : Unicode.Query) (negated : Bool)
  | shorthand (extent : Extent) (kind : Shorthand) (negated : Bool)

def Primitive.extent : Primitive → Extent
  | .literal l => l.extent
  | .assertion x _ => x
  | .dot x => x
  | .property x .. => x
  | .shorthand x .. => x

def Primitive.toTree : Primitive → Tree
  | .literal l => .literal l
  | .assertion x k => .assertion x k
  | .dot x => .dot x
  | .property x q n => .property x q n
  | .shorthand x k n => .shorthand x k n

/-- Reads a property behind its letter. -/
def readProperty (start : Position) (negated : Bool) : Reader Primitive := do
  if !(← bumpAndSkip) then fault .cutEscape (← here)
  match ← peek with
  | some '{' =>
    let text ← untilBrace (← rest).length
    if ← atEnd then fault .cutEscape (← here)
    bump
    return .property (← extentFrom start) (queryOf text) negated
  | some '\\' => fault .badProperty (← hereChar)
  | some c =>
    let _ ← bumpAndSkip
    return .property (← extentFrom start) (.name [c]) negated
  | none => fault .cutEscape (← here)

def isBoundaryNameChar (c : Char) : Bool := c.isAlpha || c = '-'

/-- The kind of a word boundary named in braces. Braces that cannot hold a name are left for the
repetition they may belong to. -/
def readBoundaryName (start : Position) : Reader (Option Assertion) := do
  let before ← get
  let braceStart ← position
  if !(← bumpAndSkip) then fault .cutWordPlace (← extentFrom start)
  let nameStart ← position
  if !((← peek).any isBoundaryNameChar) then
    set before
    return none
  let name ← takeAll isBoundaryNameChar
  if (← peek) ≠ some '}' then fault .openWordPlace (← extentFrom braceStart)
  let nameEnd ← position
  bump
  match String.ofList name with
  | "start" => return some (.word .start)
  | "end" => return some (.word .stop)
  | "start-half" => return some (.word .startHalf)
  | "end-half" => return some (.word .stopHalf)
  | _ => fault .unknownWordPlace ⟨nameStart, nameEnd⟩

/-- The class that a letter stands for, and whether it is negated. -/
def shorthand? (c : Char) : Option (Shorthand × Bool) :=
  match c with
  | 'd' => some (.digit, false)
  | 'D' => some (.digit, true)
  | 's' => some (.space, false)
  | 'S' => some (.space, true)
  | 'w' => some (.word, false)
  | 'W' => some (.word, true)
  | _ => none

/-- Control characters that have a letter. -/
def controlChar? (c : Char) : Option Char :=
  match c with
  | 'a' => some '\x07'
  | 'f' => some '\x0c'
  | 't' => some '\t'
  | 'n' => some '\n'
  | 'r' => some '\r'
  | 'v' => some '\x0b'
  | _ => none

def assertion? (c : Char) : Option Assertion :=
  match c with
  | 'A' => some .startText
  | 'z' => some .endText
  | 'b' => some (.word .boundary)
  | 'B' => some (.word .inside)
  | '<' => some (.word .start)
  | '>' => some (.word .stop)
  | _ => none

/-- Reads an escape, from its backslash on. -/
def readEscape : Reader Primitive := do
  let start ← position
  bump
  match ← peek with
  | none => fault .cutEscape (← extentFrom start)
  | some c =>
    if c.isDigit then fault .backreference ⟨start, (← hereChar).stop⟩
    else if c = 'x' ∨ c = 'u' ∨ c = 'U' then return .literal (← readHex start c)
    else if c = 'p' ∨ c = 'P' then readProperty start (c = 'P')
    else
      bump
      let x ← extentFrom start
      match shorthand? c with
      | some (kind, negated) => return .shorthand x kind negated
      | none =>
        if isEscapable c then return .literal ⟨x, c, false⟩
        match controlChar? c with
        | some d => return .literal ⟨x, d, false⟩
        | none =>
          match assertion? c with
          | none => fault .unknownEscape x
          | some kind =>
            if c = 'b' ∧ (← peek) = some '{' then
              match ← readBoundaryName start with
              | some special => return .assertion (← extentFrom start) special
              | none => return .assertion x kind
            else return .assertion x kind

end MockSchema.Pattern
