/-!
# Calendar

Days of the Gregorian calendar, extended to all years, numbered from the first day of 1970. Years are
counted from March, so that the leap day is the last day of a year and months follow one formula.
-/

namespace MockSchema

/-- A day by year, month and day of the month, the latter two counted from one. -/
structure Date where
  year : Int
  month : Nat
  day : Nat
  deriving DecidableEq, Repr, Inhabited

namespace Date

def isLeap (year : Int) : Bool :=
  decide (year % 4 = 0) && (decide (year % 100 ≠ 0) || decide (year % 400 = 0))

def monthLength (year : Int) (month : Nat) : Nat :=
  if month = 2 then (if isLeap year then 29 else 28)
  else if month = 4 ∨ month = 6 ∨ month = 9 ∨ month = 11 then 30 else 31

/-- Years that instants may lie in. -/
def firstYear : Int := -262143
def lastYear : Int := 262142

/-- The day exists and its year is in the range of years. -/
def isValid (d : Date) : Bool :=
  decide (firstYear ≤ d.year) && decide (d.year ≤ lastYear) && decide (1 ≤ d.month) &&
    decide (d.month ≤ 12) && decide (1 ≤ d.day) && decide (d.day ≤ monthLength d.year d.month)

/-- Days in a cycle of 400 years. -/
def cycleDays : Int := 146097

/-- Days from the start of a March-based cycle of years to the start of 1970. -/
def epochShift : Int := 719468

/-- The number of a day; zero is the first day of 1970. -/
def toDays (d : Date) : Int :=
  let year := if d.month ≤ 2 then d.year - 1 else d.year
  let month : Int := if d.month ≤ 2 then (d.month : Int) + 9 else (d.month : Int) - 3
  let yearInCycle := year % 400
  let dayInYear := (153 * month + 2) / 5 + d.day - 1
  let dayInCycle := yearInCycle * 365 + yearInCycle / 4 - yearInCycle / 100 + dayInYear
  year / 400 * cycleDays + dayInCycle - epochShift

/-- The day with a number. -/
def ofDays (n : Int) : Date :=
  let shifted := n + epochShift
  let dayInCycle := shifted % cycleDays
  let yearInCycle :=
    (dayInCycle - dayInCycle / 1460 + dayInCycle / 36524 - dayInCycle / 146096) / 365
  let dayInYear := dayInCycle - (365 * yearInCycle + yearInCycle / 4 - yearInCycle / 100)
  let month := (5 * dayInYear + 2) / 153
  let day := dayInYear - (153 * month + 2) / 5 + 1
  let year := shifted / cycleDays * 400 + yearInCycle
  if month < 10 then ⟨year, (month + 3).toNat, day.toNat⟩
  else ⟨year + 1, (month - 9).toNat, day.toNat⟩

end Date

end MockSchema
