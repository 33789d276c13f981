import MockSchema.Yaml.Token.Basic

/-!
# The state of scanning

Whether a text is a key shows only at the colon behind it. So every place where a key may begin is
remembered, and the tokens for the key are put in there later.
-/

namespace MockSchema.Yaml

/-- A place in a text, counted in characters. -/
structure Place where
  index : Nat
  line : Nat
  column : Nat
  deriving DecidableEq, Repr, Inhabited

/-- A place where a key may have begun, with the number of tokens before it. At the indentation of a block
mapping nothing but a key may stand. -/
structure KeyCandidate where
  required : Bool
  tokensBefore : Nat
  place : Place
  deriving DecidableEq, Repr

/-- `indent` is the column of the innermost block collection, `-1` outside of any; `outer` holds those around
it. `candidates` has one entry for each open flow collection, the innermost first, and one for the block
around them. Tokens are kept in reverse. -/
structure ScanState where
  rest : List Char
  place : Place
  flowDepth : Nat
  indent : Int
  outer : List Int
  keyAllowed : Bool
  candidates : List (Option KeyCandidate)
  tokens : List Token
  count : Nat

/-- Scanning fails without saying why. -/
abbrev Scanner := StateT ScanState Option

namespace Scanner

def start (text : List Char) : ScanState :=
  ⟨text, ⟨0, 0, 0⟩, 0, -1, [], true, [none], [], 0⟩

def peek : Scanner (Option Char) := return (← get).rest.head?

/-- The character at a distance ahead. -/
def peekAt (n : Nat) : Scanner (Option Char) := return (← get).rest[n]?

def isNext (c : Char) : Scanner Bool := return (← get).rest.head? = some c

/-- A blank, a line break or the end of the text stands at a distance ahead. -/
def isGapAt (n : Nat) : Scanner Bool :=
  return (← get).rest[n]?.all fun c => isBlank c || isBreak c

def remaining : Scanner Nat := return (← get).rest.length

/-- Steps over a character that is no line break. -/
def skip : Scanner Unit := modify fun s =>
  { s with
    rest := s.rest.drop 1
    place := ⟨s.place.index + 1, s.place.line, s.place.column + 1⟩ }

def skipTimes : Nat → Scanner Unit
  | 0 => pure ()
  | n + 1 => do skip; skipTimes n

/-- Takes a line break and gives its normal form; most are a line feed. Without one nothing is taken. -/
def takeBreak : Scanner (List Char) := do
  let s ← get
  let advance (n : Nat) : Scanner Unit :=
    set { s with rest := s.rest.drop n, place := ⟨s.place.index + n, s.place.line + 1, 0⟩ }
  match s.rest with
  | '\r' :: '\n' :: _ => advance 2; return ['\n']
  | c :: _ =>
    if c = '\u2028' ∨ c = '\u2029' then advance 1; return [c]
    else if isBreak c then advance 1; return ['\n']
    else return []
  | [] => return []

/-- Takes characters that satisfy a condition and are no line breaks. -/
def takeWhile (p : Char → Bool) : Scanner (List Char) := do
  let s ← get
  let taken := s.rest.takeWhile p
  let n := taken.length
  set { s with
    rest := s.rest.drop n
    place := ⟨s.place.index + n, s.place.line, s.place.column + n⟩ }
  return taken

/-- Steps over the given character. -/
def expect (c : Char) : Scanner Unit := do if ← isNext c then skip else failure

def push (t : Token) : Scanner Unit := modify fun s =>
  { s with tokens := t :: s.tokens, count := s.count + 1 }

/-- Puts a token in behind the given number of tokens. -/
def insertAt (before : Nat) (t : Token) : Scanner Unit := modify fun s =>
  let later := s.count - before
  { s with tokens := s.tokens.take later ++ t :: s.tokens.drop later, count := s.count + 1 }

def allowKey (b : Bool) : Scanner Unit := modify fun s => { s with keyAllowed := b }

/-- Gives up a candidate; one that is required must not be lost. -/
def dropCandidate : Scanner Unit := do
  let s ← get
  match s.candidates with
  | some k :: rest => if k.required then failure else set { s with candidates := none :: rest }
  | _ => pure ()

/-- Notes that a key may begin here, if keys may begin. -/
def noteCandidate : Scanner Unit := do
  let s ← get
  if s.keyAllowed then
    dropCandidate
    let required := s.flowDepth = 0 ∧ s.indent = s.place.column
    modify fun s => { s with candidates := some ⟨required, s.count, s.place⟩ :: s.candidates.drop 1 }

/-- A key ends on the line where it begins and has at most 1024 characters. Candidates that can be none any
more are given up. -/
def dropStale : Scanner Unit := do
  let s ← get
  let isStale (k : KeyCandidate) : Bool :=
    k.place.line < s.place.line || k.place.index + 1024 < s.place.index
  if s.candidates.any (Option.any fun k => isStale k && k.required) then failure
  set { s with candidates := s.candidates.map (Option.filter fun k => !isStale k) }

/-- Opens a block collection at a column that is deeper than the current one. Flow collections know no
indentation. -/
def openBlock (column : Nat) (before : Option Nat) (t : Token) : Scanner Unit := do
  let s ← get
  if s.flowDepth = 0 ∧ s.indent < column then
    set { s with indent := column, outer := s.indent :: s.outer }
    insertAt (before.getD s.count) t

/-- Closes the block collections deeper than a column. -/
def closeBlocks (column : Int) : Scanner Unit := do
  let s ← get
  if s.flowDepth = 0 then
    let closed := s.indent :: s.outer |>.takeWhile (column < ·)
    let left := (s.indent :: s.outer).drop closed.length
    set { s with indent := left.headD (-1), outer := left.drop 1 }
    closed.forM fun _ => push .blockEnd

/-- A document mark stands here: three hyphens or points at the start of a line. -/
def isDocumentMark : Scanner Bool := do
  let s ← get
  let marked := ['-', '-', '-'].isPrefixOf s.rest || ['.', '.', '.'].isPrefixOf s.rest
  return s.place.column = 0 && marked && (← isGapAt 3)

end Scanner

end MockSchema.Yaml
