import MockSchema.Unicode.Class

/-!
# Written patterns

The tree that a pattern text stands for, with the place of each part, before any meaning is given to
classes and flags.
-/

namespace MockSchema.Pattern

/-- A place in a pattern text. Offsets count bytes; lines and columns count from one. -/
structure Position where
  offset : Nat
  line : Nat
  column : Nat
  deriving DecidableEq, Repr, Inhabited

def Position.start : Position := ⟨0, 1, 1⟩

/-- The place behind a character. -/
def Position.advance (p : Position) (c : Char) : Position :=
  if c = '\n' then ⟨p.offset + c.utf8Size, p.line + 1, 1⟩
  else ⟨p.offset + c.utf8Size, p.line, p.column + 1⟩

/-- A part of a pattern text: from one place up to, and without, another. -/
structure Extent where
  start : Position
  stop : Position
  deriving DecidableEq, Repr, Inhabited

/-- The empty extent at a place. -/
def Position.here (p : Position) : Extent := ⟨p, p⟩

inductive Flag where
  | caseInsensitive | multiLine | dotMatchesNewLine | swapGreed | unicode | crlf | ignoreWhitespace
  deriving DecidableEq, Repr

/-- One character of a flag list: a minus, which turns the flags after it off, or a flag. -/
inductive FlagItem where
  | negation
  | flag (f : Flag)
  deriving DecidableEq, Repr

/-- A character that stands for itself. `isByte` marks two hexadecimal digits, which name a byte where
characters are bytes. -/
structure Literal where
  extent : Extent
  char : Char
  isByte : Bool
  deriving DecidableEq, Repr, Inhabited

inductive Shorthand where
  | digit | space | word
  deriving DecidableEq, Repr

inductive AsciiClass where
  | alnum | alpha | ascii | blank | cntrl | digit | graph | lower | print | punct | space | upper
  | word | xdigit
  deriving DecidableEq, Repr

inductive SetOperation where
  | intersection | difference | symmetricDifference
  deriving DecidableEq, Repr

/-- What may stand between square brackets. -/
inductive ClassSet where
  | empty (extent : Extent)
  | literal (l : Literal)
  | range (extent : Extent) (low high : Literal)
  | ascii (extent : Extent) (kind : AsciiClass) (negated : Bool)
  | property (extent : Extent) (query : Unicode.Query) (negated : Bool)
  | shorthand (extent : Extent) (kind : Shorthand) (negated : Bool)
  | bracketed (extent : Extent) (negated : Bool) (set : ClassSet)
  | union (extent : Extent) (items : List ClassSet)
  | operation (extent : Extent) (op : SetOperation) (left right : ClassSet)
  deriving Repr, Inhabited

def ClassSet.extent : ClassSet → Extent
  | .empty x => x
  | .literal l => l.extent
  | .range x .. => x
  | .ascii x .. => x
  | .property x .. => x
  | .shorthand x .. => x
  | .bracketed x .. => x
  | .union x .. => x
  | .operation x .. => x

/-- Conditions on a place between characters that ask for words beside it. -/
inductive WordPlace where
  | boundary | inside | start | stop | startHalf | stopHalf
  deriving DecidableEq, Repr

/-- Conditions on a place between characters. -/
inductive Assertion where
  | startLine | endLine | startText | endText
  | word (place : WordPlace)
  deriving DecidableEq, Repr

inductive GroupKind where
  | capture (index : Nat) (name : Option String)
  | plain (flags : List FlagItem)
  deriving DecidableEq, Repr

/-- How often a part is repeated, both bounds included. Without a maximum there is no upper bound. -/
structure Counts where
  min : UInt32
  max : Option UInt32
  ordered : ∀ n ∈ max, min ≤ n
  deriving DecidableEq, Repr

namespace Counts

/-- The counts between two bounds, unless they are in the wrong order. -/
def of? (min : UInt32) : Option UInt32 → Option Counts
  | none => some ⟨min, none, by simp⟩
  | some max => if h : min ≤ max then some ⟨min, some max, by simpa using h⟩ else none

def exactly (n : UInt32) : Counts := ⟨n, some n, by simp⟩

def optional : Counts := ⟨0, some 1, by simp⟩

def anyNumber : Counts := ⟨0, none, by simp⟩

def atLeastOne : Counts := ⟨1, none, by simp⟩

end Counts

/-- The tree of a pattern. -/
inductive Tree where
  | empty (extent : Extent)
  | flags (extent : Extent) (items : List FlagItem)
  | literal (l : Literal)
  | dot (extent : Extent)
  | assertion (extent : Extent) (kind : Assertion)
  | property (extent : Extent) (query : Unicode.Query) (negated : Bool)
  | shorthand (extent : Extent) (kind : Shorthand) (negated : Bool)
  | bracketed (extent : Extent) (negated : Bool) (set : ClassSet)
  | repetition (extent : Extent) (counts : Counts) (greedy : Bool) (sub : Tree)
  | group (extent : Extent) (kind : GroupKind) (sub : Tree)
  | alternation (extent : Extent) (branches : List Tree)
  | concat (extent : Extent) (parts : List Tree)
  deriving Repr, Inhabited

def Tree.extent : Tree → Extent
  | .empty x => x
  | .flags x _ => x
  | .literal l => l.extent
  | .dot x => x
  | .assertion x _ => x
  | .property x .. => x
  | .shorthand x .. => x
  | .bracketed x .. => x
  | .repetition x .. => x
  | .group x .. => x
  | .alternation x _ => x
  | .concat x _ => x

end MockSchema.Pattern
