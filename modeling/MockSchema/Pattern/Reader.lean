import MockSchema.Pattern.Error

/-!
# The state of reading a pattern

Reading goes from left to right over the characters of a pattern. With white space ignored, comments and
blanks may stand almost anywhere; the operations here step over them.
-/

namespace MockSchema.Pattern

/-- Parts of a sequence read so far, the last one first. -/
structure Sequence where
  start : Position
  parts : List Tree
  deriving Inhabited

/-- What is open around the current sequence: a group with the sequence before it, or the branches of an
alternation, the last one first. -/
inductive Open where
  | group (before : Sequence) (extent : Extent) (kind : GroupKind) (ignoredSpace : Bool)
  | branches (start : Position) (done : List Tree)

/-- What is open around the current items of a class: a class with the items before it, or the left side
of a set operation. -/
inductive OpenClass where
  | class (before : List ClassSet) (beforeExtent : Extent) (extent : Extent) (negated : Bool)
  | operation (op : SetOperation) (left : ClassSet)

structure ReaderState where
  rest : List Char
  position : Position
  ignoreSpace : Bool
  captures : Nat
  names : List (String × Extent)
  opened : List Open
  classes : List OpenClass

abbrev Reader := StateT ReaderState (Except Error)

namespace Reader

def fault {α : Type} (cause : Cause) (extent : Extent) : Reader α := throw ⟨cause, extent, none⟩

/-- An error about a part that does not go together with an earlier one. -/
def faultWith {α : Type} (cause : Cause) (extent clash : Extent) : Reader α :=
  throw ⟨cause, extent, some clash⟩

def position : Reader Position := return (← get).position

def rest : Reader (List Char) := return (← get).rest

def peek : Reader (Option Char) := return (← get).rest.head?

def atEnd : Reader Bool := return (← get).rest.isEmpty

/-- The empty extent here. -/
def here : Reader Extent := return (← position).here

/-- The extent of the next character; nothing at the end. -/
def hereChar : Reader Extent := do
  let s ← get
  match s.rest with
  | [] => return s.position.here
  | c :: _ => return ⟨s.position, s.position.advance c⟩

def extentFrom (start : Position) : Reader Extent := return ⟨start, ← position⟩

/-- Steps over one character, if there is one. -/
def bump : Reader Unit := modify fun s =>
  match s.rest with
  | [] => s
  | c :: r => { s with rest := r, position := s.position.advance c }

def bumpTimes : Nat → Reader Unit
  | 0 => pure ()
  | n + 1 => do bump; bumpTimes n

/-- Steps over the given text if it comes next. -/
def bumpIf (text : List Char) : Reader Bool := do
  if text.isPrefixOf (← rest) then
    bumpTimes text.length
    return true
  else return false

/-- What follows blanks and comments. A comment ends with its line. -/
def blanksEnd (inComment : Bool) : List Char → Position → List Char × Position
  | [], p => ([], p)
  | c :: r, p =>
    if inComment then blanksEnd (c ≠ '\n') r (p.advance c)
    else if Unicode.isWhiteSpace c then blanksEnd false r (p.advance c)
    else if c = '#' then blanksEnd true r (p.advance c)
    else (c :: r, p)

/-- Steps over blanks and comments where they are ignored. -/
def skipBlanks : Reader Unit := modify fun s =>
  if s.ignoreSpace then
    let (r, p) := blanksEnd false s.rest s.position
    { s with rest := r, position := p }
  else s

/-- Steps over one character and the blanks behind it; tells whether anything is left. -/
def bumpAndSkip : Reader Bool := do
  bump
  skipBlanks
  return !(← atEnd)

/-- The character after blanks and a comment mark; the first one where only those are left. -/
def afterBlanks (inComment : Bool) : List Char → Option Char
  | [] => none
  | c :: r =>
    if Unicode.isWhiteSpace c then afterBlanks inComment r
    else if !inComment && c = '#' then afterBlanks true r
    else some c

/-- The second character ahead, blanks ignored where they are. -/
def peekSecond : Reader (Option Char) := do
  let s ← get
  let ahead := s.rest.drop 1
  if s.ignoreSpace && !s.rest.isEmpty then
    return (afterBlanks false ahead).or ahead.head?
  else return ahead.head?

/-- Characters that satisfy a condition, with blanks skipped behind each. -/
def takeSpaced (p : Char → Bool) : Nat → Reader (List Char)
  | 0 => return []
  | fuel + 1 => do
    match ← peek with
    | some c =>
      if p c then
        let _ ← bumpAndSkip
        return c :: (← takeSpaced p fuel)
      else return []
    | none => return []

/-- As `takeSpaced`, as long as the text lasts. -/
def takeAll (p : Char → Bool) : Reader (List Char) := do takeSpaced p (← rest).length

/-- Steps over white space, whether ignored or not. -/
def skipWhite (skip : Reader Unit) : Nat → Reader Unit
  | 0 => pure ()
  | fuel + 1 => do
    match ← peek with
    | some c => if Unicode.isWhiteSpace c then do skip; skipWhite skip fuel else pure ()
    | none => pure ()

end Reader

end MockSchema.Pattern
