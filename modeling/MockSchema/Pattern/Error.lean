import MockSchema.Pattern.Syntax

/-!
# Errors in patterns

An error has a cause, the part of the pattern it is about, and sometimes a second part. Its message
shows the pattern with the parts underlined.
-/

namespace MockSchema.Pattern

/-- Why a text is not a pattern. -/
inductive Cause where
  | escapeInClass | reversedClassRange | rangeEndNotChar | openClass
  | noNumber | numberTooBig
  | noHexDigits | notACodePoint | notAHexDigit
  | cutEscape | unknownEscape
  | negatesNoFlag | repeatedFlag | repeatedNegation | cutFlags
  | unknownFlag
  | repeatedGroupName | emptyGroupName | badGroupNameChar | openGroupName
  | openGroup | strayGroupEnd
  | tooDeep (limit : Nat)
  | reversedCounts | noCount | openCount
  | nothingToRepeat
  | openWordPlace | unknownWordPlace | cutWordPlace
  | badProperty | backreference | lookAround
  | unicodeTurnedOff | brokenUtf8 | unknownProperty | unknownPropertyValue
  deriving DecidableEq, Repr

def Cause.message : Cause → String
  | .escapeInClass => "invalid escape sequence found in character class"
  | .reversedClassRange => "invalid character class range, the start must be <= the end"
  | .rangeEndNotChar => "invalid range boundary, must be a literal"
  | .openClass => "unclosed character class"
  | .noNumber => "decimal literal empty"
  | .numberTooBig => "decimal literal invalid"
  | .noHexDigits => "hexadecimal literal empty"
  | .notACodePoint => "hexadecimal literal is not a Unicode scalar value"
  | .notAHexDigit => "invalid hexadecimal digit"
  | .cutEscape => "incomplete escape sequence, reached end of pattern prematurely"
  | .unknownEscape => "unrecognized escape sequence"
  | .negatesNoFlag => "dangling flag negation operator"
  | .repeatedFlag => "duplicate flag"
  | .repeatedNegation => "flag negation operator repeated"
  | .cutFlags => "expected flag but got end of regex"
  | .unknownFlag => "unrecognized flag"
  | .repeatedGroupName => "duplicate capture group name"
  | .emptyGroupName => "empty capture group name"
  | .badGroupNameChar => "invalid capture group character"
  | .openGroupName => "unclosed capture group name"
  | .openGroup => "unclosed group"
  | .strayGroupEnd => "unopened group"
  | .tooDeep limit =>
    s!"exceed the maximum number of nested parentheses/brackets ({limit})"
  | .reversedCounts =>
    "invalid repetition count range, the start must be <= the end"
  | .noCount => "repetition quantifier expects a valid decimal"
  | .openCount => "unclosed counted repetition"
  | .nothingToRepeat => "repetition operator missing expression"
  | .openWordPlace =>
    "special word boundary assertion is either unclosed or contains an invalid character"
  | .unknownWordPlace =>
    "unrecognized special word boundary assertion, valid choices are: " ++
      "start, end, start-half or end-half"
  | .cutWordPlace =>
    "found either the beginning of a special word boundary or a bounded repetition on a \\b " ++
      "with an opening brace, but no closing brace"
  | .badProperty => "invalid Unicode character class"
  | .backreference => "backreferences are not supported"
  | .lookAround =>
    "look-around, including look-ahead and look-behind, is not supported"
  | .unicodeTurnedOff => "Unicode not allowed here"
  | .brokenUtf8 => "pattern can match invalid UTF-8"
  | .unknownProperty => "Unicode property not found"
  | .unknownPropertyValue => "Unicode property value not found"

/-- A cause with the part of the pattern it is about, and the earlier part it clashes with. -/
structure Error where
  cause : Cause
  extent : Extent
  clash : Option Extent
  deriving DecidableEq, Repr

/-- Lines of a text without their ends; a line end at the very end starts no further line. -/
def lines (cs : List Char) : List (List Char) :=
  let rec go : List Char → List Char → List (List Char)
    | [], [] => []
    | [], line => [line.reverse]
    | '\n' :: r, line =>
      (match line with
        | '\r' :: l => l.reverse
        | l => l.reverse) :: go r []
    | c :: r, line => go r (c :: line)
  go cs []

/-- Underlines extents of one line, from left to right, starting at a column counted from zero. -/
def underline : Nat → List Extent → List Char
  | _, [] => []
  | at_, x :: rest =>
    let gap := (x.start.column - 1) - at_
    let width := max 1 (x.stop.column - x.start.column)
    List.replicate gap ' ' ++ List.replicate width '^' ++ underline (at_ + gap + width) rest

def Extent.isOneLine (x : Extent) : Bool := x.start.line = x.stop.line

/-- The pattern line by line, an underlining below each line with marked parts. Line numbers are shown
if there is more than one line. -/
def notate (numberWidth : Nat) (marks : List Extent) : Nat → List (List Char) → List Char
  | _, [] => []
  | number, line :: rest =>
    let digits := Nat.toDigits 10 number
    let lead := if numberWidth = 0 then List.replicate 4 ' '
      else List.replicate (numberWidth - digits.length) ' ' ++ digits ++ [':', ' ']
    let padding := if numberWidth = 0 then 4 else numberWidth + 2
    let here := marks.filter (·.start.line = number)
    let notes := if here.isEmpty then []
      else List.replicate padding ' ' ++ underline 0 here ++ ['\n']
    lead ++ line ++ ['\n'] ++ notes ++ notate numberWidth marks (number + 1) rest

/-- The message for an error in the given pattern. -/
def Error.message (e : Error) (pattern : String) : String :=
  let cs := pattern.toList
  let marks := (e.extent :: e.clash.toList).mergeSort fun a b => a.start.offset ≤ b.start.offset
  let (single, several) := marks.partition Extent.isOneLine
  let patternLines := lines cs
  let count := patternLines.length + (if cs.getLast? = some '\n' then 1 else 0)
  let numberWidth := if count ≤ 1 then 0 else (Nat.toDigits 10 count).length
  let body := String.ofList (notate numberWidth single 1 patternLines)
  if cs.contains '\n' then
    let divider := String.ofList (List.replicate 79 '~') ++ "\n"
    let spans := several.map fun x =>
      s!"on line {x.start.line} (column {x.start.column}) through line {x.stop.line} " ++
        s!"(column {x.stop.column - 1})"
    "regex parse error:\n" ++ divider ++ body ++ divider ++
      (if several.isEmpty then "" else "\n".intercalate spans ++ "\n") ++
      "error: " ++ e.cause.message
  else "regex parse error:\n" ++ body ++ "error: " ++ e.cause.message

end MockSchema.Pattern
