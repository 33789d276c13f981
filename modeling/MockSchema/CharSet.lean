/-!
# Sets of characters

A set is a list of spans of code points. Operations keep the spans ascending and apart; a span may
reach across the surrogates, which are no characters and count for nothing.
-/

namespace MockSchema

/-- Spans of code points, both ends included. -/
structure CharSet where
  spans : List (Nat × Nat)
  deriving DecidableEq, Repr, Inhabited

namespace CharSet

def surrogateFirst : Nat := 0xD800
def surrogateLast : Nat := 0xDFFF
def surrogateCount : Nat := surrogateLast - surrogateFirst + 1
def lastCodePoint : Nat := 0x10FFFF

def empty : CharSet := ⟨[]⟩

def isEmpty (s : CharSet) : Bool := s.spans.isEmpty

/-- The code point of the next character; the surrogates are skipped. -/
def next (n : Nat) : Nat := if n + 1 = surrogateFirst then surrogateLast + 1 else n + 1

/-- The code point of the character before; the surrogates are skipped. -/
def previous (n : Nat) : Nat := if n = surrogateLast + 1 then surrogateFirst - 1 else n - 1

/-- Joins spans sorted by their start where they overlap or follow each other directly. -/
def join : List (Nat × Nat) → List (Nat × Nat)
  | [] => []
  | s :: rest => go s rest
where
  go : Nat × Nat → List (Nat × Nat) → List (Nat × Nat)
    | s, [] => [s]
    | s, t :: rest =>
      if t.1 ≤ s.2 + 1 then go (s.1, max s.2 t.2) rest else s :: go t rest

/-- The set of the characters in some of the spans, in any order. -/
def ofSpans (spans : List (Nat × Nat)) : CharSet :=
  ⟨join (spans.mergeSort fun s t => s.1 < t.1 || (s.1 == t.1 && s.2 ≤ t.2))⟩

/-- The same characters, with the spans ascending and apart. -/
def canonical (s : CharSet) : CharSet := ofSpans s.spans

def singleton (c : Char) : CharSet := ⟨[(c.toNat, c.toNat)]⟩

def union (a b : CharSet) : CharSet := ofSpans (a.spans ++ b.spans)

def unions (sets : List CharSet) : CharSet := ofSpans (sets.flatMap spans)

def inter (a b : CharSet) : CharSet :=
  ⟨a.spans.flatMap fun s => b.spans.filterMap fun t =>
    let low := max s.1 t.1
    let high := min s.2 t.2
    if low ≤ high then some (low, high) else none⟩

/-- What of a span remains outside another. -/
def cut (s t : Nat × Nat) : List (Nat × Nat) :=
  if s.2 < t.1 ∨ t.2 < s.1 then [s]
  else
    (if s.1 < t.1 then [(s.1, previous t.1)] else []) ++
      (if t.2 < s.2 then [(next t.2, s.2)] else [])

def diff (a b : CharSet) : CharSet :=
  ⟨a.spans.flatMap fun s => b.spans.foldl (fun pieces t => pieces.flatMap (cut · t)) [s]⟩

def symmDiff (a b : CharSet) : CharSet := (a.union b).diff (a.inter b)

/-- Gaps between spans up to the given last code point. Two spans that meet across the surrogates leave
the two characters beside them. -/
def gaps (last : Nat) : List (Nat × Nat) → List (Nat × Nat)
  | [] => []
  | [s] => if s.2 < last then [(next s.2, last)] else []
  | s :: t :: rest =>
    (min (next s.2) (previous t.1), max (next s.2) (previous t.1)) :: gaps last (t :: rest)

/-- All characters up to the given last one that are not in the set. -/
def complement (last : Nat) (a : CharSet) : CharSet :=
  match a.spans with
  | [] => ⟨[(0, last)]⟩
  | s :: rest => ⟨(if 0 < s.1 then [(0, previous s.1)] else []) ++ gaps last (s :: rest)⟩

def contains (a : CharSet) (n : Nat) : Bool := a.spans.any fun s => s.1 ≤ n && n ≤ s.2

/-- Every character is at most the given one. -/
def isBelow (a : CharSet) (limit : Nat) : Bool := a.spans.all fun s => s.2 < limit

/-- The only character of a set of one. -/
def single? (a : CharSet) : Option Nat :=
  match a.spans with
  | [s] => if s.1 = s.2 then some s.1 else none
  | _ => none

/-- Number of characters in a span. -/
def spanCount (s : Nat × Nat) : Nat :=
  if s.1 < surrogateFirst ∧ surrogateLast < s.2 then s.2 - s.1 + 1 - surrogateCount
  else s.2 - s.1 + 1

/-- The character at a place in a span; the surrogates are skipped. -/
def spanAt? (s : Nat × Nat) (place : Nat) : Option Char :=
  let n := s.1 + place
  let n := if s.1 < surrogateFirst ∧ surrogateFirst ≤ n then n + surrogateCount else n
  if h : n.isValidChar then some (Char.ofNatAux n h) else none

/-- Number of characters in the spans. -/
def countOf : List (Nat × Nat) → Nat
  | [] => 0
  | s :: rest => spanCount s + countOf rest

/-- The character at a place in the spans, taken one after the other. -/
def at? : List (Nat × Nat) → Nat → Option Char
  | [], _ => none
  | s :: rest, place =>
    if place < spanCount s then spanAt? s place else at? rest (place - spanCount s)

def count (a : CharSet) : Nat := countOf a.spans

/-- Characters of the set by their place in ascending order. -/
def get? (a : CharSet) (place : Nat) : Option Char := at? a.spans place

end CharSet

end MockSchema
