import MockSchema.Pattern.Expr
import MockSchema.Pattern.Parse

/-!
# From written patterns to expressions

Flags apply from their place to the end of the enclosing group and are resolved here, from left to right.
Differences of case are added to a class before it is negated.
-/

namespace MockSchema.Pattern

/-- Flags that change what a pattern means. -/
structure Flags where
  caseInsensitive : Bool
  multiLine : Bool
  dotMatchesNewLine : Bool
  swapGreed : Bool
  unicode : Bool
  crlf : Bool
  deriving DecidableEq, Repr

namespace Flags

def initial : Flags := ⟨false, false, false, false, true, false⟩

def set (f : Flags) (flag : Flag) (on : Bool) : Flags :=
  match flag with
  | .caseInsensitive => { f with caseInsensitive := on }
  | .multiLine => { f with multiLine := on }
  | .dotMatchesNewLine => { f with dotMatchesNewLine := on }
  | .swapGreed => { f with swapGreed := on }
  | .unicode => { f with unicode := on }
  | .crlf => { f with crlf := on }
  | .ignoreWhitespace => f

/-- Applies a list of flags; those behind a minus are turned off. -/
def apply (f : Flags) (on : Bool) : List FlagItem → Flags
  | [] => f
  | .negation :: rest => apply f false rest
  | .flag flag :: rest => apply (f.set flag on) on rest

/-- What the members of a class are. -/
def alphabet (f : Flags) : Alphabet := if f.unicode then .characters else .bytes

end Flags

def asciiSpans : AsciiClass → List (Char × Char)
  | .alnum => [('0', '9'), ('A', 'Z'), ('a', 'z')]
  | .alpha => [('A', 'Z'), ('a', 'z')]
  | .ascii => [('\x00', '\x7f')]
  | .blank => [('\t', '\t'), (' ', ' ')]
  | .cntrl => [('\x00', '\x1f'), ('\x7f', '\x7f')]
  | .digit => [('0', '9')]
  | .graph => [('!', '~')]
  | .lower => [('a', 'z')]
  | .print => [(' ', '~')]
  | .punct => [('!', '/'), (':', '@'), ('[', '\x60'), ('\x7b', '~')]
  | .space => [('\t', '\t'), ('\n', '\n'), ('\x0b', '\x0b'), ('\x0c', '\x0c'), ('\r', '\r'), (' ', ' ')]
  | .upper => [('A', 'Z')]
  | .word => [('0', '9'), ('A', 'Z'), ('_', '_'), ('a', 'z')]
  | .xdigit => [('0', '9'), ('A', 'F'), ('a', 'f')]

def asciiSet (kind : AsciiClass) : CharSet :=
  CharSet.ofSpans ((asciiSpans kind).map fun (a, b) => (a.toNat, b.toNat))

def shorthandSet (unicode : Bool) (kind : Shorthand) : CharSet :=
  if unicode then
    match kind with
    | .digit => Unicode.ofTables [Unicode.decimalNumber]
    | .space => Unicode.ofTables [Unicode.whiteSpace]
    | .word => Unicode.wordCharacter
  else
    asciiSet (match kind with
      | .digit => .digit
      | .space => .space
      | .word => .word)

/-- ASCII letters of either case for those in the set. -/
def foldAscii (s : CharSet) : CharSet :=
  let letters := (List.range 26).flatMap fun i =>
    let (lower, upper) := ('a'.toNat + i, 'A'.toNat + i)
    if s.contains lower || s.contains upper then [(lower, lower), (upper, upper)] else []
  CharSet.ofSpans (s.spans ++ letters)

def fold (flags : Flags) (s : CharSet) : CharSet :=
  if !flags.caseInsensitive then s
  else if flags.unicode then Unicode.foldCase s else foldAscii s

def negate (flags : Flags) (negated : Bool) (s : CharSet) : CharSet :=
  if negated then s.complement (if flags.unicode then CharSet.lastCodePoint else 0xFF) else s

/-- A class of bytes is refused unless its members are ASCII: other bytes alone are no text. -/
def checkText (flags : Flags) (extent : Extent) (s : CharSet) : Except Error CharSet :=
  if flags.unicode || s.isBelow 0x80 then .ok s else .error ⟨.brokenUtf8, extent, none⟩

def foldAndNegate (flags : Flags) (extent : Extent) (negated : Bool) (s : CharSet) :
    Except Error CharSet :=
  checkText flags extent (negate flags negated (fold flags s))

def shorthandClass (flags : Flags) (extent : Extent) (kind : Shorthand) (negated : Bool) :
    Except Error CharSet :=
  checkText flags extent (negate flags negated (shorthandSet flags.unicode kind))

def propertyClass (flags : Flags) (extent : Extent) (query : Unicode.Query) (negated : Bool) :
    Except Error CharSet :=
  if !flags.unicode then .error ⟨.unicodeTurnedOff, extent, none⟩
  else
    match query.resolve with
    | .ok s => foldAndNegate flags extent negated s
    | .error .unknownProperty => .error ⟨.unknownProperty, extent, none⟩
    | .error .valueNotFound => .error ⟨.unknownPropertyValue, extent, none⟩

/-- The character of a literal. Where characters are bytes, the code of a byte must be ASCII. -/
def literalChar (flags : Flags) (l : Literal) : Except Error Char :=
  if !flags.unicode && l.isByte && 0x80 ≤ l.char.toNat then .error ⟨.brokenUtf8, l.extent, none⟩
  else .ok l.char

/-- The code of a literal in a class. A class of bytes takes ASCII only. -/
def memberCode (flags : Flags) (l : Literal) : Except Error Nat := do
  let c ← literalChar flags l
  if !flags.unicode && 0x80 ≤ c.toNat then .error ⟨.unicodeTurnedOff, l.extent, none⟩
  else .ok c.toNat

def setOperation (op : SetOperation) (a b : CharSet) : CharSet :=
  match op with
  | .intersection => a.inter b
  | .difference => a.diff b
  | .symmetricDifference => a.symmDiff b

mutual

/-- The members of a class. Every item is joined to those of the class around it, so what is negated is
ascending and apart. -/
def ClassSet.members (flags : Flags) : ClassSet → Except Error CharSet
  | .empty _ => .ok .empty
  | .literal l => do
    let n ← memberCode flags l
    return ⟨[(n, n)]⟩
  | .range _ low high => do
    let m ← memberCode flags low
    let n ← memberCode flags high
    return ⟨[(min m n, max m n)]⟩
  | .ascii x kind negated => do return (← foldAndNegate flags x negated (asciiSet kind)).canonical
  | .property x query negated => do return (← propertyClass flags x query negated).canonical
  | .shorthand x kind negated => do return (← shorthandClass flags x kind negated).canonical
  | .bracketed x negated set => do
    return (← foldAndNegate flags x negated (← set.members flags)).canonical
  | .union _ items => do return CharSet.unions (← ClassSet.membersOfAll flags items)
  | .operation _ op left right => do
    let a ← left.members flags
    let b ← right.members flags
    return (setOperation op (fold flags a) (fold flags b)).canonical

def ClassSet.membersOfAll (flags : Flags) : List ClassSet → Except Error (List CharSet)
  | [] => .ok []
  | item :: rest => do
    let s ← item.members flags
    let others ← ClassSet.membersOfAll flags rest
    return s :: others

end

/-- A character; in either case where case is ignored and the character has another one. -/
def literalExpr (flags : Flags) (c : Char) : Expr :=
  let varies := if flags.unicode then Unicode.hasCaseVariant c else c.isAlpha
  if flags.caseInsensitive && varies then
    .ofClass flags.alphabet (fold flags (.singleton c))
  else .literal [c]

/-- Any character, without line ends unless they are asked for. -/
def dotSet (flags : Flags) : CharSet :=
  let lineEnds :=
    if flags.dotMatchesNewLine then []
    else if flags.crlf then [('\n'.toNat, '\n'.toNat), ('\r'.toNat, '\r'.toNat)]
    else [('\n'.toNat, '\n'.toNat)]
  CharSet.complement CharSet.lastCodePoint ⟨lineEnds⟩

def lookOf (flags : Flags) : Assertion → Look
  | .startLine => if flags.multiLine then .startLine flags.crlf else .startText
  | .endLine => if flags.multiLine then .endLine flags.crlf else .endText
  | .startText => .startText
  | .endText => .endText
  | .word place => .word place flags.unicode

mutual

/-- The expression for a tree under the given flags, and the flags that hold behind it. -/
def Tree.toExpr (flags : Flags) : Tree → Except Error (Expr × Flags)
  | .empty _ => .ok (.empty, flags)
  | .flags _ items => .ok (.empty, flags.apply true items)
  | .literal l => do
    let c ← literalChar flags l
    return (literalExpr flags c, flags)
  | .dot x =>
    if flags.unicode then .ok (.ofClass .characters (dotSet flags), flags)
    else .error ⟨.brokenUtf8, x, none⟩
  | .assertion _ kind => .ok (.look (lookOf flags kind), flags)
  | .property x query negated => do
    let s ← propertyClass flags x query negated
    return (.ofClass .characters s, flags)
  | .shorthand x kind negated => do
    let s ← shorthandClass flags x kind negated
    return (.ofClass flags.alphabet s, flags)
  | .bracketed x negated set => do
    let s ← foldAndNegate flags x negated (← set.members flags)
    return (.ofClass flags.alphabet s, flags)
  | .repetition _ counts greedy sub => do
    let (e, flags) ← sub.toExpr flags
    return (.repeating counts (greedy != flags.swapGreed) e, flags)
  | .group _ (.capture index name) sub => do
    let (e, _) ← sub.toExpr flags
    return (.capture index name e, flags)
  | .group _ (.plain items) sub => do
    let (e, _) ← sub.toExpr (flags.apply true items)
    return (e, flags)
  | .alternation _ branches => do
    let (es, flags) ← Tree.toExprs flags branches
    return (.choice es, flags)
  | .concat _ parts => do
    let (es, flags) ← Tree.toExprs flags parts
    return (.sequence es, flags)

def Tree.toExprs (flags : Flags) : List Tree → Except Error (List Expr × Flags)
  | [] => .ok ([], flags)
  | t :: rest => do
    let (e, flags) ← t.toExpr flags
    let (es, flags) ← Tree.toExprs flags rest
    return (e :: es, flags)

end

/-- The expression for a pattern text. -/
def compile (pattern : List Char) : Except Error Expr := do
  let tree ← parse pattern
  let (e, _) ← tree.toExpr .initial
  return e

end MockSchema.Pattern
