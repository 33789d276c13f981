import MockSchema.Text.Integer
import MockSchema.Timestamp.Instant
import MockSchema.Unicode.Property

/-!
# Reading timestamps

A timestamp is a date and a time with an offset from universal time, or a date alone, which means its
first second in universal time. Of a date alone the parts may have fewer digits and blanks before them,
and the year may have a sign.
-/

namespace MockSchema.Instant

/-- At least `least` and at most `most` digits from the front, as a number, and what follows. -/
def takeNumber (least most : Nat) (cs : List Char) : Option (Nat × List Char) :=
  let digits := (cs.take most).takeWhile Char.isDigit
  if digits.length < least ∨ digits.isEmpty then none
  else (Text.readNat? 10 digits).map fun n => (n, cs.drop digits.length)

/-- What follows a character from a list. -/
def takeChar (choices : List Char) : List Char → Option (List Char)
  | [] => none
  | c :: r => if c ∈ choices then some r else none

/-- A number in a fixed number of digits that lies between two bounds. -/
def takeField (width low high : Nat) (cs : List Char) : Option (Nat × List Char) :=
  match takeNumber width width cs with
  | some (n, r) => if low ≤ n ∧ n ≤ high then some (n, r) else none
  | none => none

/-- Nanoseconds from a fraction of a second; digits after the ninth are dropped. No fraction is zero. -/
def takeFraction : List Char → Option (Nat × List Char)
  | '.' :: r => do
    let (n, rest) ← takeNumber 1 9 r
    return (n * Nat.pow 10 (9 - (r.length - rest.length)), rest.dropWhile Char.isDigit)
  | r => some (0, r)

/-- Offset from universal time in seconds. -/
def takeOffset : List Char → Option (Int × List Char)
  | [] => none
  | c :: r =>
    if c = 'Z' ∨ c = 'z' then some (0, r)
    else if c = '+' ∨ c = '-' ∨ c = '\u2212' then do
      let (hours, r) ← takeField 2 0 23 r
      let r ← takeChar [':'] r
      let (minutes, r) ← takeField 2 0 59 r
      let seconds : Int := hours * 3600 + minutes * 60
      return (if c = '+' then seconds else -seconds, r)
    else none

/-- Reads a date and a time. Second sixty is a leap second in any minute. -/
def parseFull (cs : List Char) : Option Instant := do
  let (year, cs) ← takeField 4 0 9999 cs
  let cs ← takeChar ['-'] cs
  let (month, cs) ← takeField 2 1 12 cs
  let cs ← takeChar ['-'] cs
  let (day, cs) ← takeField 2 1 31 cs
  let cs ← takeChar ['T', 't', ' '] cs
  let (hour, cs) ← takeField 2 0 23 cs
  let cs ← takeChar [':'] cs
  let (minute, cs) ← takeField 2 0 59 cs
  let cs ← takeChar [':'] cs
  let (second, cs) ← takeField 2 0 60 cs
  let (nanos, cs) ← takeFraction cs
  let (offset, cs) ← takeOffset cs
  let date : Date := ⟨year, month, day⟩
  if cs.isEmpty && date.isValid then
    let inDay : Int := hour * 3600 + minute * 60 + min second 59
    return ⟨date.toDays * daySeconds + inDay - offset, nanos + if second = 60 then leapNanos else 0⟩
  else none

/-- A year with blanks before it. With a sign it may have any number of digits. -/
def takeYear (cs : List Char) : Option (Int × List Char) :=
  match cs.dropWhile Unicode.isWhiteSpace with
  | '-' :: r => (takeNumber 1 r.length r).map fun (n, r) => (-(n : Int), r)
  | '+' :: r => (takeNumber 1 r.length r).map fun (n, r) => ((n : Int), r)
  | r => (takeNumber 1 4 r).map fun (n, r) => ((n : Int), r)

/-- One or two digits with blanks before them. -/
def takeShort (cs : List Char) : Option (Nat × List Char) :=
  takeNumber 1 2 (cs.dropWhile Unicode.isWhiteSpace)

/-- Reads a date alone. -/
def parseDate (cs : List Char) : Option Instant := do
  let (year, cs) ← takeYear cs
  let cs ← takeChar ['-'] cs
  let (month, cs) ← takeShort cs
  let cs ← takeChar ['-'] cs
  let (day, cs) ← takeShort cs
  let date : Date := ⟨year, month, day⟩
  if cs.isEmpty && date.isValid then return ofDate date else none

/-- The instant that a text denotes. -/
def parse? (text : String) : Option Instant :=
  match parseFull text.toList with
  | some t => some t
  | none => parseDate text.toList

end MockSchema.Instant
