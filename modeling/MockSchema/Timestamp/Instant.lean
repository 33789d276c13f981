import MockSchema.Timestamp.Calendar

/-!
# Instants

An instant counts seconds from the start of 1970 in universal time, with nanoseconds. A leap second has
the number of the second before it and a billion nanoseconds or more.
-/

namespace MockSchema

structure Instant where
  seconds : Int
  nanos : Nat
  deriving DecidableEq, Repr, Inhabited

namespace Instant

def daySeconds : Int := 86400
def leapNanos : Nat := 1000000000

def epoch : Instant := ⟨0, 0⟩

/-- Order in time; a leap second comes after the second before it. -/
def le (a b : Instant) : Bool :=
  decide (a.seconds < b.seconds) || (decide (a.seconds = b.seconds) && decide (a.nanos ≤ b.nanos))

/-- The start of a day. -/
def ofDate (d : Date) : Instant := ⟨d.toDays * daySeconds, 0⟩

/-- Two digits of a number below a hundred. -/
def twoDigits (n : Nat) : List Char :=
  [Nat.digitChar (n / 10 % 10), Nat.digitChar (n % 10)]

/-- Four digits; a year outside of these has a sign. -/
def yearChars (year : Int) : List Char :=
  if 0 ≤ year ∧ year ≤ 9999 then twoDigits (year.toNat / 100) ++ twoDigits (year.toNat % 100)
  else
    let digits := Nat.toDigits 10 year.natAbs
    (if year < 0 then '-' else '+') :: List.replicate (4 - digits.length) '0' ++ digits

/-- Date and time to the second in universal time. A leap second is written as second sixty. -/
def chars (t : Instant) : List Char :=
  let date := Date.ofDays (t.seconds / daySeconds)
  let second := (t.seconds % daySeconds).toNat
  yearChars date.year ++ '-' :: twoDigits date.month ++ '-' :: twoDigits date.day ++
    'T' :: twoDigits (second / 3600) ++ ':' :: twoDigits (second / 60 % 60) ++
    ':' :: twoDigits (second % 60 + if leapNanos ≤ t.nanos then 1 else 0) ++ ['Z']

def text (t : Instant) : String := String.ofList t.chars

end Instant

end MockSchema
