import MockSchema.Pattern.ClassReader

/-!
# Reading patterns

A pattern is a sequence of parts with groups and alternatives. Open groups are kept on a stack, so the
depth of a pattern is bounded only by the explicit limit on nesting.
-/

namespace MockSchema.Pattern

open Reader

/-- Deepest nesting of groups, classes, repetitions, sequences and alternatives. -/
def nestLimit : Nat := 250

def Sequence.close (q : Sequence) (stop : Position) : Tree :=
  match q.parts with
  | [] => .empty ⟨q.start, stop⟩
  | [part] => part
  | parts => .concat ⟨q.start, stop⟩ parts.reverse

def Sequence.push (q : Sequence) (part : Tree) : Sequence := { q with parts := part :: q.parts }

def newSequence : Reader Sequence := return ⟨← position, []⟩

def flag? (c : Char) : Option Flag :=
  match c with
  | 'i' => some .caseInsensitive
  | 'm' => some .multiLine
  | 's' => some .dotMatchesNewLine
  | 'U' => some .swapGreed
  | 'u' => some .unicode
  | 'R' => some .crlf
  | 'x' => some .ignoreWhitespace
  | _ => none

/-- Reads flags up to a colon or a closing parenthesis, which is left. Earlier items are kept with their
extents, to name a repeated one. -/
def readFlags (seen : List (FlagItem × Extent)) : Nat → Reader (List (FlagItem × Extent))
  | 0 => return seen.reverse
  | fuel + 1 => do
    match ← peek with
    | none => fault .cutFlags (← here)
    | some c =>
      if c = ':' ∨ c = ')' then
        match seen with
        | (.negation, x) :: _ => fault .negatesNoFlag x
        | _ => return seen.reverse
      else
        let x ← hereChar
        let item ←
          if c = '-' then pure FlagItem.negation
          else match flag? c with
            | some f => pure (.flag f)
            | none => fault .unknownFlag x
        match seen.find? fun e => e.1 = item with
        | some (_, earlier) =>
          faultWith (if item = .negation then .repeatedNegation else .repeatedFlag) x earlier
        | none =>
          bump
          if ← atEnd then fault .cutFlags (← here)
          readFlags ((item, x) :: seen) fuel

/-- Whether a flag list turns a flag on or off, if it names it. -/
def flagState (f : Flag) (items : List FlagItem) : Option Bool :=
  if items.contains (.flag f) then
    some (!(items.takeWhile (· ≠ .flag f)).contains .negation)
  else none

def isNameStart (c : Char) : Bool := c = '_' || Unicode.isAlphabetic c

def isNameChar (c : Char) : Bool :=
  c = '_' || c = '.' || c = '[' || c = ']' || Unicode.isAlphanumeric c

/-- Characters of a group name up to its closing angle bracket, which is left. -/
def readNameChars (first : Bool) : Nat → Reader (List Char)
  | 0 => return []
  | fuel + 1 => do
    match ← peek with
    | none => return []
    | some c =>
      if c = '>' then return []
      if !(if first then isNameStart c else isNameChar c) then
        fault .badGroupNameChar (← hereChar)
      bump
      return c :: (← readNameChars false fuel)

/-- Reads a group name and its closing angle bracket. No two groups share a name. -/
def readGroupName : Reader String := do
  if ← atEnd then fault .openGroupName (← here)
  let start ← position
  let name ← readNameChars true (← rest).length
  let stop ← position
  if ← atEnd then fault .openGroupName (← here)
  bump
  if name.isEmpty then fault .emptyGroupName start.here
  let s ← get
  let name := String.ofList name
  match s.names.lookup name with
  | some earlier => faultWith .repeatedGroupName ⟨start, stop⟩ earlier
  | none =>
    set { s with names := (name, ⟨start, stop⟩) :: s.names }
    return name

def nextCapture : Reader Nat := do
  modify fun s => { s with captures := s.captures + 1 }
  return (← get).captures

/-- Opens a group around the sequence read so far. -/
def beginGroup (q : Sequence) (x : Extent) (kind : GroupKind) (ignoreSpace : Bool) :
    Reader Sequence := do
  modify fun s =>
    { s with opened := .group q x kind s.ignoreSpace :: s.opened, ignoreSpace := ignoreSpace }
  newSequence

/-- Reads the opening of a group, or flags that hold from here on. -/
def readOpening (q : Sequence) : Reader Sequence := do
  let openExtent ← hereChar
  bump
  skipBlanks
  for look in [['?', '='], ['?', '!'], ['?', '<', '='], ['?', '<', '!']] do
    if ← bumpIf look then
      fault .lookAround ⟨openExtent.start, ← position⟩
  let inner ← here
  let ignoreSpace := (← get).ignoreSpace
  let named ← if ← bumpIf ['?', 'P', '<'] then pure true else bumpIf ['?', '<']
  if named then
    let index ← nextCapture
    let name ← readGroupName
    beginGroup q openExtent (.capture index (some name)) ignoreSpace
  else if ← bumpIf ['?'] then
    if ← atEnd then fault .openGroup openExtent
    let items := (← readFlags [] ((← rest).length + 1)).map Prod.fst
    let ignoreSpace := (flagState .ignoreWhitespace items).getD ignoreSpace
    let last ← peek
    bump
    if last = some ')' then
      if items.isEmpty then fault .nothingToRepeat inner
      modify fun s => { s with ignoreSpace := ignoreSpace }
      return q.push (.flags (← extentFrom openExtent.start) items)
    else beginGroup q openExtent (.plain items) ignoreSpace
  else
    let index ← nextCapture
    beginGroup q openExtent (.capture index none) ignoreSpace

/-- Ends a branch of an alternation and starts the next. -/
def readBar (q : Sequence) : Reader Sequence := do
  let branch := q.close (← position)
  modify fun s =>
    match s.opened with
    | .branches start done :: outer => { s with opened := .branches start (branch :: done) :: outer }
    | opened => { s with opened := .branches q.start [branch] :: opened }
  bump
  newSequence

/-- The branches waiting on top of the stack together with the last one. -/
def closeBranches (last : Tree) (stop : Position) : Reader Tree := do
  let s ← get
  match s.opened with
  | .branches start done :: outer =>
    set { s with opened := outer }
    return .alternation ⟨start, stop⟩ (last :: done).reverse
  | _ => return last

/-- Closes the innermost group and goes on with the sequence around it. -/
def readClosing (q : Sequence) : Reader Sequence := do
  let closing ← hereChar
  let sub ← closeBranches (q.close closing.start) closing.start
  let s ← get
  match s.opened with
  | .group before x kind ignoredSpace :: outer =>
    set { s with opened := outer, ignoreSpace := ignoredSpace }
    bump
    return before.push (.group (← extentFrom x.start) kind sub)
  | _ => fault .strayGroupEnd closing

/-- Closes everything at the end of the pattern; an open group is an error. -/
def closeAll (q : Sequence) : Reader Tree := do
  let stop ← position
  let tree ← closeBranches (q.close stop) stop
  match (← get).opened with
  | .group _ x _ _ :: _ => fault .openGroup x
  | _ => return tree

/-- The part that a repetition operator applies to, and the sequence before it. -/
def repeated (q : Sequence) : Reader (Tree × Sequence) :=
  match q.parts with
  | [] => do fault .nothingToRepeat (← here)
  | .empty _ :: _ => do fault .nothingToRepeat (← here)
  | .flags .. :: _ => do fault .nothingToRepeat (← here)
  | part :: before => return (part, { q with parts := before })

/-- Takes a question mark, which makes a repetition lazy. -/
def readGreed : Reader Bool := do
  if (← peek) = some '?' then
    bump
    return false
  else return true

def pushRepetition (q : Sequence) (part : Tree) (counts : Counts) (greedy : Bool) :
    Reader Sequence := do
  return q.push (.repetition (← extentFrom part.extent.start) counts greedy part)

/-- Reads one of the operators for none or one, any number, and at least one. -/
def readRepetition (q : Sequence) (counts : Counts) : Reader Sequence := do
  let (part, before) ← repeated q
  bump
  pushRepetition before part counts (← readGreed)

/-- A decimal of 32 bits with white space around it, or the reason why there is none. -/
def readCount : Reader (Except Error UInt32) := do
  skipWhite bump (← rest).length
  let start ← position
  let ds ← takeAll Char.isDigit
  let x ← extentFrom start
  skipWhite (do let _ ← bumpAndSkip) (← rest).length
  let n := ds.foldl (fun n c => 10 * n + (c.toNat - '0'.toNat)) 0
  if ds.isEmpty then return .error ⟨.noCount, x, none⟩
  else if h : n < UInt32.size then return .ok (UInt32.ofNatLT n h)
  else return .error ⟨.numberTooBig, x, none⟩

def orThrow {α : Type} (e : Except Error α) : Reader α :=
  match e with
  | .ok a => return a
  | .error e => throw e

/-- Reads counts between braces: one number, a number with no upper bound, or two numbers. -/
def readCounted (q : Sequence) : Reader Sequence := do
  let start ← position
  let (part, before) ← repeated q
  if !(← bumpAndSkip) then fault .openCount (← extentFrom start)
  let first ← readCount
  if ← atEnd then fault .openCount (← extentFrom start)
  let (min, max) ←
    if (← peek) ≠ some ',' then do
      let n ← orThrow first
      pure (n, some n)
    else do
      if !(← bumpAndSkip) then fault .openCount (← extentFrom start)
      let low ← orThrow first
      if (← peek) ≠ some '}' then
        let high ← orThrow (← readCount)
        pure (low, some high)
      else pure (low, none)
  if (← peek) ≠ some '}' then fault .openCount (← extentFrom start)
  let more ← bumpAndSkip
  let greedy ← if more then readGreed else pure true
  match Counts.of? min max with
  | some counts => pushRepetition before part counts greedy
  | none => fault .reversedCounts (← extentFrom start)

def readPrimitive : Reader Tree := do
  let x ← hereChar
  match ← peek with
  | some '\\' => return (← readEscape).toTree
  | some '.' => bump; return .dot x
  | some '^' => bump; return .assertion x .startLine
  | some '$' => bump; return .assertion x .endLine
  | some c => bump; return .literal ⟨x, c, false⟩
  | none => return .empty x

/-- Reads parts to the end of the pattern. Each turn takes at least one character. -/
def readParts (q : Sequence) : Nat → Reader Tree
  | 0 => closeAll q
  | fuel + 1 => do
    skipBlanks
    match ← peek with
    | none => closeAll q
    | some c =>
      let q ←
        match c with
        | '(' => readOpening q
        | ')' => readClosing q
        | '|' => readBar q
        | '[' => do pure (q.push (← readClass))
        | '?' => readRepetition q .optional
        | '*' => readRepetition q .anyNumber
        | '+' => readRepetition q .atLeastOne
        | '{' => readCounted q
        | _ => do pure (q.push (← readPrimitive))
      readParts q fuel

/-- One level deeper, unless the limit is reached. -/
def deeper (depth : Nat) (x : Extent) : Except Error Nat :=
  if depth < nestLimit then .ok (depth + 1) else .error ⟨.tooDeep nestLimit, x, none⟩

mutual

/-- Checks the nesting of classes from the outside in, left to right. -/
def checkClassDepth (depth : Nat) : ClassSet → Except Error Unit
  | .bracketed x _ set => do checkClassDepth (← deeper depth x) set
  | .union x items => do checkItemsDepth (← deeper depth x) items
  | .operation x _ left right => do
    let depth ← deeper depth x
    checkClassDepth depth left
    checkClassDepth depth right
  | _ => .ok ()

def checkItemsDepth (depth : Nat) : List ClassSet → Except Error Unit
  | [] => .ok ()
  | item :: rest => do
    checkClassDepth depth item
    checkItemsDepth depth rest

end

mutual

/-- Checks the nesting of a pattern from the outside in, left to right. -/
def checkDepth (depth : Nat) : Tree → Except Error Unit
  | .bracketed x _ set => do checkClassDepth (← deeper depth x) set
  | .repetition x _ _ sub => do checkDepth (← deeper depth x) sub
  | .group x _ sub => do checkDepth (← deeper depth x) sub
  | .alternation x branches => do checkPartsDepth (← deeper depth x) branches
  | .concat x parts => do checkPartsDepth (← deeper depth x) parts
  | _ => .ok ()

def checkPartsDepth (depth : Nat) : List Tree → Except Error Unit
  | [] => .ok ()
  | part :: rest => do
    checkDepth depth part
    checkPartsDepth depth rest

end

/-- The tree of a pattern text. -/
def parse (pattern : List Char) : Except Error Tree := do
  let state : ReaderState := ⟨pattern, .start, false, 0, [], [], []⟩
  let (tree, _) ← (readParts ⟨.start, []⟩ (pattern.length + 1)).run state
  checkDepth 0 tree
  return tree

end MockSchema.Pattern
