import MockSchema.Text.Integer
import MockSchema.Yaml.Token.Scanner

/-!
# Scalars

Line breaks inside a scalar are folded: a single one becomes a space, of several the first is dropped. The
literal style keeps them.
-/

namespace MockSchema.Yaml.Scanner

/-- Blanks and line breaks between two parts of a scalar. Blanks behind a line break do not count. -/
structure Gap where
  broken : Bool
  blanks : List Char
  first : List Char
  more : List Char
  deriving Repr

def Gap.none : Gap := ⟨false, [], [], []⟩

/-- What a gap contributes to the text. -/
def Gap.fold (g : Gap) : List Char :=
  if !g.broken then g.blanks
  else if g.first = ['\n'] then (if g.more.isEmpty then [' '] else g.more)
  else g.first ++ g.more

/-- Takes blanks and line breaks. Behind a line break no tab may stand before column `indent`. -/
def takeGap (indent : Int) (g : Gap) : Nat → Scanner Gap
  | 0 => return g
  | fuel + 1 => do
    match ← peek with
    | some c =>
      if isBlank c then
        if g.broken ∧ c = '\t' ∧ (← get).place.column < indent then failure
        skip
        takeGap indent (if g.broken then g else { g with blanks := g.blanks ++ [c] }) fuel
      else if isBreak c then
        let b ← takeBreak
        takeGap indent
          (if g.broken then { g with more := g.more ++ b } else ⟨true, [], b, []⟩) fuel
      else return g
    | none => return g

/-- Characters of a plain scalar up to a blank or an indicator that ends it. -/
def takePlainRun (inFlow : Bool) : Nat → Scanner (List Char)
  | 0 => return []
  | fuel + 1 => do
    match ← peek with
    | none => return []
    | some c =>
      if isBlank c ∨ isBreak c then return []
      let ahead ← peekAt 1
      if inFlow ∧ c = ':' ∧ ahead.any (· ∈ [',', '?', '[', ']', '{', '}']) then failure
      if c = ':' ∧ (← isGapAt 1) then return []
      if inFlow ∧ c ∈ [',', '[', ']', '{', '}'] then return []
      skip
      return c :: (← takePlainRun inFlow fuel)

/-- The rest of a plain scalar behind `text` and a gap, and whether a line break stands behind it. -/
def plainFrom (indent : Int) (text : List Char) (g : Gap) : Nat → Scanner (List Char × Bool)
  | 0 => return (text, g.broken)
  | fuel + 1 => do
    if (← isDocumentMark) || (← isNext '#') then return (text, g.broken)
    let inFlow := (← get).flowDepth ≠ 0
    let run ← takePlainRun inFlow (← remaining)
    if run.isEmpty then return (text, g.broken)
    let text := text ++ g.fold ++ run
    if !(← peek).any fun c => isBlank c || isBreak c then return (text, false)
    let g ← takeGap indent .none (← remaining)
    if !inFlow ∧ (← get).place.column < indent then return (text, g.broken)
    plainFrom indent text g fuel

def scanPlain : Scanner Unit := do
  let (text, broken) ← plainFrom ((← get).indent + 1) [] .none (← remaining)
  if broken then allowKey true
  push (.scalar .plain text)

/-- The character for the code with the given number of hexadecimal digits. -/
def escapedCode (digits : Nat) : Scanner Char := do
  let code := (← get).rest.take digits
  if code.length < digits then failure
  skipTimes digits
  let n ← Text.readNat? 16 code
  if h : n.isValidChar then return Char.ofNatAux n h else failure

/-- Escapes of one character. -/
def simpleEscape? (c : Char) : Option Char :=
  match c with
  | '0' => some '\x00'
  | 'a' => some '\x07'
  | 'b' => some '\x08'
  | 't' | '\t' => some '\t'
  | 'n' => some '\n'
  | 'v' => some '\x0b'
  | 'f' => some '\x0c'
  | 'r' => some '\r'
  | 'e' => some '\x1b'
  | ' ' => some ' '
  | '"' => some '"'
  | '/' => some '/'
  | '\\' => some '\\'
  | 'N' => some '\u0085'
  | '_' => some '\u00a0'
  | 'L' => some '\u2028'
  | 'P' => some '\u2029'
  | _ => none

/-- Takes an escape, from its backslash on. -/
def takeEscape : Scanner Char := do
  let c ← (← get).rest[1]?
  skipTimes 2
  match simpleEscape? c with
  | some d => return d
  | none =>
    if c = 'x' then escapedCode 2
    else if c = 'u' then escapedCode 4
    else if c = 'U' then escapedCode 8
    else failure

/-- Characters of a quoted scalar up to a blank, a line break or the closing quote, and whether an escaped
line break ended them. -/
def takeQuotedRun (single : Bool) : Nat → Scanner (List Char × Bool)
  | 0 => return ([], false)
  | fuel + 1 => do
    let quote := if single then '\'' else '"'
    let more (c : Char) : Scanner (List Char × Bool) := do
      let (run, broken) ← takeQuotedRun single fuel
      return (c :: run, broken)
    match (← get).rest with
    | [] => return ([], false)
    | c :: r =>
      if isBlank c ∨ isBreak c then return ([], false)
      else if single ∧ c = quote ∧ r.head? = some quote then skipTimes 2; more quote
      else if c = quote then return ([], false)
      else if !single ∧ c = '\\' then
        if r.head?.any isBreak then
          skip
          let _ ← takeBreak
          return ([], true)
        else more (← takeEscape)
      else skip; more c

/-- The rest of a quoted scalar behind `text`. -/
def quotedFrom (single : Bool) (text : List Char) : Nat → Scanner (List Char)
  | 0 => failure
  | fuel + 1 => do
    if ← isDocumentMark then failure
    if (← peek).isNone then failure
    let (run, broken) ← takeQuotedRun single (← remaining)
    let text := text ++ run
    if ← isNext (if single then '\'' else '"') then
      skip
      return text
    let g ← takeGap 0 { Gap.none with broken := broken } (← remaining)
    quotedFrom single (text ++ g.fold) fuel

def scanQuoted (single : Bool) : Scanner Unit := do
  skip
  let text ← quotedFrom single [] ((← remaining) + 1)
  push (.scalar (if single then .singleQuoted else .doubleQuoted) text)

/-- What happens to the line breaks at the end of a block scalar. -/
inductive Chomping where
  | clip | strip | keep
  deriving DecidableEq, Repr

/-- Takes a digit for the indentation; zero is none. -/
def takeIndentDigit : Scanner (Option Nat) := do
  match ← peek with
  | some c =>
    if c = '0' then failure
    else if c.isDigit then
      skip
      return some (c.toNat - '0'.toNat)
    else return none
  | none => return none

def takeChomping : Scanner (Option Chomping) := do
  if ← isNext '+' then
    skip
    return some .keep
  else if ← isNext '-' then
    skip
    return some .strip
  else return none

/-- Chomping and indentation in either order. -/
def takeBlockHeader : Scanner (Chomping × Option Nat) := do
  match ← takeChomping with
  | some chomping => return (chomping, ← takeIndentDigit)
  | none =>
    match ← takeIndentDigit with
    | some n => return ((← takeChomping).getD .clip, some n)
    | none => return (.clip, none)

/-- Blanks and a comment up to the end of the line, which must come then. -/
def finishLine : Scanner Unit := do
  let _ ← takeWhile isBlank
  if ← isNext '#' then
    let _ ← takeWhile fun c => !isBreak c
  if (← peek).all isBreak then
    let _ ← takeBreak
  else failure

/-- Empty lines and the indentation of the next line. Without a known indentation any number of spaces is
taken; the greatest number met is given back. -/
def takeEmptyLines (indent : Option Nat) (deepest : Nat) (breaks : List Char) :
    Nat → Scanner (Nat × List Char)
  | 0 => return (deepest, breaks)
  | fuel + 1 => do
    let inside (column : Nat) : Bool := indent.all (column < ·)
    let column := (← get).place.column
    let length ← remaining
    let room := match indent with
      | some n => n - column
      | none => length
    let spaces := ((← get).rest.take room).takeWhile (· = ' ')
    skipTimes spaces.length
    let column := (← get).place.column
    let deepest := max deepest column
    if inside column ∧ (← isNext '\t') then failure
    if (← peek).any isBreak then
      let b ← takeBreak
      takeEmptyLines indent deepest (breaks ++ b) fuel
    else return (deepest, breaks)

/-- The text of a block scalar so far: its lines, the break behind the last line, and the empty lines behind
that. A folded scalar keeps the breaks around lines that begin with a blank. -/
structure BlockText where
  text : List Char
  lastBreak : List Char
  emptyLines : List Char
  lastIsBlank : Bool

/-- Adds a line to the text. -/
def BlockText.addLine (b : BlockText) (literal : Bool) (line : List Char) : List Char :=
  let startsBlank := line.head?.any isBlank
  let joint :=
    if !literal ∧ b.lastBreak = ['\n'] ∧ !b.lastIsBlank ∧ !startsBlank then
      if b.emptyLines.isEmpty then [' '] else []
    else b.lastBreak
  b.text ++ joint ++ b.emptyLines ++ line

/-- Takes lines as long as they have the indentation. -/
def blockLines (literal : Bool) (indent : Nat) (b : BlockText) : Nat → Scanner BlockText
  | 0 => return b
  | fuel + 1 => do
    if (← get).place.column ≠ indent ∨ (← peek).isNone then return b
    let line ← takeWhile fun c => !isBreak c
    let lastBreak ← takeBreak
    let (_, emptyLines) ← takeEmptyLines (some indent) 0 [] ((← remaining) + 1)
    blockLines literal indent
      ⟨b.addLine literal line, lastBreak, emptyLines, line.head?.any isBlank⟩ fuel

def scanBlock (literal : Bool) : Scanner Unit := do
  skip
  let (chomping, digit) ← takeBlockHeader
  finishLine
  let parent := (← get).indent
  let given := digit.map fun n => if 0 ≤ parent then parent.toNat + n else n
  let (deepest, breaks) ← takeEmptyLines given 0 [] ((← remaining) + 1)
  let indent := given.getD (max deepest (max (parent + 1).toNat 1))
  let b ← blockLines literal indent ⟨[], [], breaks, false⟩ ((← remaining) + 1)
  let tail := match chomping with
    | .strip => []
    | .clip => b.lastBreak
    | .keep => b.lastBreak ++ b.emptyLines
  push (.scalar (if literal then .literal else .folded) (b.text ++ tail))

end MockSchema.Yaml.Scanner
