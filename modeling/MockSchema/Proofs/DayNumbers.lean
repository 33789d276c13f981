import Mathlib.Tactic.IntervalCases
import MockSchema.Timestamp.Calendar

/-!
# Days by number

Numbers of days and dates of the calendar determine each other (`Date.toDays_ofDays`, `Date.ofDays_toDays`): the
date with a number is the only one on the calendar that has it. Both ways lead over years that begin in March.
Such a year has the leap day at its end, so the days before it are counted by one formula for all years
(`Date.yearStart`), and a date is a year together with a day in it. Later days are not in earlier years
(`Date.year_mono`).
-/

namespace MockSchema.Date

/-- The month and the day of the month exist. -/
def OnCalendar (d : Date) : Prop :=
  (1 ≤ d.month ∧ d.month ≤ 12) ∧ 1 ≤ d.day ∧ d.day ≤ monthLength d.year d.month

theorem OnCalendar.isValid {d : Date} (exist : d.OnCalendar) (first : firstYear ≤ d.year)
    (last : d.year ≤ lastYear) : d.isValid = true := by
  obtain ⟨⟨_, _⟩, _, _⟩ := exist
  simp_all [Date.isValid]

/-! ## Years that begin in March -/

/-- The number of days in front of a year, from the beginning of year zero on. -/
def yearStart (y : Int) : Int := 365 * y + y / 4 - y / 100 + y / 400

/-- A year ends with the February of the next one, and is as long as that one says. -/
theorem yearStart_succ (y : Int) :
    yearStart (y + 1) = yearStart y + if isLeap (y + 1) then 366 else 365 := by
  unfold yearStart
  split
  · next leap =>
    simp only [isLeap, Bool.and_eq_true, Bool.or_eq_true, decide_eq_true_eq] at leap
    omega
  · next common =>
    simp only [isLeap, Bool.and_eq_true, Bool.or_eq_true, decide_eq_true_eq] at common
    omega

theorem yearStart_mono {y z : Int} (order : y ≤ z) : yearStart y ≤ yearStart z := by
  unfold yearStart
  omega

theorem yearStart_cycles (cycle y : Int) :
    yearStart (cycle * 400 + y) = cycle * cycleDays + yearStart y := by
  unfold yearStart cycleDays
  omega

/-- The year that a day of a cycle of 400 years is in. -/
def yearInCycle (day : Int) : Int := (day - day / 1460 + day / 36524 - day / 146096) / 365

/-- The quotients are linear once the century and the place of the year in its group of four are known. -/
theorem yearInCycle_bounds {day : Int} (low : 0 ≤ day) (high : day < cycleDays) :
    yearStart (yearInCycle day) ≤ day ∧ day < yearStart (yearInCycle day + 1) := by
  unfold cycleDays at high
  generalize within : yearInCycle day = year
  unfold yearInCycle at within
  obtain ⟨first, last⟩ : 0 ≤ day / 36524 ∧ day / 36524 ≤ 4 := by omega
  obtain ⟨place, shift⟩ : ∃ place, year = 4 * (day / 1460) + place := ⟨year - 4 * (day / 1460), by omega⟩
  obtain ⟨least, greatest⟩ : -1 ≤ place ∧ place ≤ 3 := by omega
  unfold yearStart
  generalize century : day / 36524 = c at *
  interval_cases c <;> interval_cases place <;> omega

/-! ## Dates by year and day of the year -/

/-- The number of days in a year in front of a month, from March on, which is month zero. -/
def monthStart (month : Int) : Int := (153 * month + 2) / 5

/-- The year from March on that a date is in. -/
def marchYear (d : Date) : Int := if d.month ≤ 2 then d.year - 1 else d.year

/-- The month of a date, counted from March on. -/
def marchMonth (d : Date) : Int := if d.month ≤ 2 then (d.month : Int) + 9 else (d.month : Int) - 3

/-- The number of days in the year in front of a date. -/
def dayInYear (d : Date) : Int := monthStart d.marchMonth + d.day - 1

/-- The date with a number of days in front of it in a year. -/
def ofYearDay (year day : Int) : Date :=
  let month := (5 * day + 2) / 153
  let dayOfMonth := day - monthStart month + 1
  if month < 10 then ⟨year, (month + 3).toNat, dayOfMonth.toNat⟩
  else ⟨year + 1, (month - 9).toNat, dayOfMonth.toNat⟩

/-- A year has a day with a number of days in front of it. -/
def HasDay (year day : Int) : Prop := 0 ≤ day ∧ yearStart year + day < yearStart (year + 1)

theorem HasDay.le {year day : Int} (has : HasDay year day) : day ≤ 365 := by
  have ends := has.2
  rw [yearStart_succ] at ends
  split at ends <;> omega

theorem toDays_eq (d : Date) : d.toDays = yearStart d.marchYear + d.dayInYear - epochShift := by
  simp only [toDays, marchYear, dayInYear, marchMonth, monthStart, yearStart, cycleDays]
  split <;> omega

/-- A number of a day is taken apart into a year and a day of it. -/
theorem exists_ofYearDay (n : Int) : ∃ year day, HasDay year day ∧
    n = yearStart year + day - epochShift ∧ ofDays n = ofYearDay year day := by
  have low : 0 ≤ (n + epochShift) % cycleDays := Int.emod_nonneg _ (by decide)
  have high : (n + epochShift) % cycleDays < cycleDays := Int.emod_lt_of_pos _ (by decide)
  have whole := Int.ediv_mul_add_emod (n + epochShift) cycleDays
  have bounds := yearInCycle_bounds low high
  have early : yearInCycle ((n + epochShift) % cycleDays) / 400 = 0 := by
    unfold yearInCycle
    unfold cycleDays at low high ⊢
    omega
  have made : ofDays n = ofYearDay ((n + epochShift) / cycleDays * 400 +
      yearInCycle ((n + epochShift) % cycleDays))
    ((n + epochShift) % cycleDays - (365 * yearInCycle ((n + epochShift) % cycleDays) +
      yearInCycle ((n + epochShift) % cycleDays) / 4 -
      yearInCycle ((n + epochShift) % cycleDays) / 100)) := rfl
  generalize yearInCycle ((n + epochShift) % cycleDays) = year at *
  have starts : yearStart year = 365 * year + year / 4 - year / 100 := by
    rw [yearStart, early, Int.add_zero]
  rw [← starts] at made
  refine ⟨_, _, ⟨by omega, ?_⟩, ?_, made⟩
  · rw [Int.add_assoc, yearStart_cycles, yearStart_cycles]
    omega
  · rw [yearStart_cycles]
    omega

/-- The formula for the days in front of a month grows by the length of the month. Of February, which is the last
one, only the bound matters. -/
theorem monthStart_succ (year : Int) {month : Int} (least : 0 ≤ month) (greatest : month < 10) :
    monthStart (month + 1) = monthStart month + monthLength year (month + 3).toNat := by
  interval_cases month <;> rfl

/-- The month that a day of a year is in. -/
theorem month_eq_iff {month day : Int} :
    (5 * day + 2) / 153 = month ↔ monthStart month ≤ day ∧ day < monthStart (month + 1) := by
  unfold monthStart
  omega

/-- The months divide a year; the last one has a leap day if the year has one. -/
theorem onCalendar_ofYearDay {year day : Int} (has : HasDay year day) :
    (ofYearDay year day).OnCalendar := by
  have long := has.le
  obtain ⟨first, ends⟩ := has
  obtain ⟨starts, stops⟩ := month_eq_iff.mp (rfl : (5 * day + 2) / 153 = _)
  unfold ofYearDay
  dsimp only
  split
  · next early =>
    rw [monthStart_succ year (by omega) early] at stops
    refine ⟨⟨?_, ?_⟩, ?_, ?_⟩ <;> dsimp only <;> omega
  · next late =>
    obtain january | february : (5 * day + 2) / 153 = 10 ∨ (5 * day + 2) / 153 = 11 := by omega
    · rw [january] at starts stops ⊢
      have length : monthLength (year + 1) (10 - 9 : Int).toNat = 31 := rfl
      refine ⟨by simp, ?_⟩
      dsimp only [monthStart] at *
      omega
    · rw [february] at starts ⊢
      have length : monthLength (year + 1) (11 - 9 : Int).toNat = if isLeap (year + 1) then 29 else 28 := rfl
      rw [yearStart_succ] at ends
      refine ⟨by simp, ?_⟩
      dsimp only [monthStart] at *
      split at ends <;> simp_all <;> omega

/-- A date that is made from a year and a day of it is in that year, with that many days in front of it. -/
theorem ofYearDay_apart {year day : Int} (has : HasDay year day) :
    (ofYearDay year day).marchYear = year ∧ (ofYearDay year day).dayInYear = day := by
  have long := has.le
  have first := has.1
  unfold ofYearDay
  dsimp only
  split
  · next early =>
    simp only [marchYear, dayInYear, marchMonth, monthStart]
    omega
  · next late =>
    simp only [marchYear, dayInYear, marchMonth, monthStart]
    omega

/-- A date of the calendar is in its month, and its month in its year. -/
theorem OnCalendar.inMonth {d : Date} (exist : d.OnCalendar) :
    monthStart d.marchMonth ≤ d.dayInYear ∧ d.dayInYear < monthStart (d.marchMonth + 1) ∧
      HasDay d.marchYear d.dayInYear := by
  obtain ⟨year, month, day⟩ := d
  obtain ⟨⟨least, greatest⟩, first, last⟩ := exist
  dsimp only at least greatest first last
  unfold HasDay
  rw [yearStart_succ]
  simp only [marchYear, marchMonth, dayInYear]
  obtain rfl | rfl | late : month = 1 ∨ month = 2 ∨ 3 ≤ month := by omega
  · have length : monthLength year 1 = 31 := rfl
    simp only [monthStart]
    split <;> omega
  · have length : monthLength year 2 = if isLeap year then 29 else 28 := rfl
    rw [length] at last
    simp only [monthStart, if_pos (Nat.le_refl 2), Int.sub_add_cancel]
    split at last <;> simp_all <;> omega
  · have next := monthStart_succ year (by omega : 0 ≤ (month : Int) - 3) (by omega)
    rw [Int.sub_add_cancel, Int.toNat_natCast] at next
    simp only [if_neg (Nat.not_le.mpr late), next]
    simp only [monthStart] at next ⊢
    split <;> omega

theorem ofYearDay_eq {d : Date} (exist : d.OnCalendar) : ofYearDay d.marchYear d.dayInYear = d := by
  obtain ⟨starts, stops, -⟩ := exist.inMonth
  have within := month_eq_iff.mpr ⟨starts, stops⟩
  obtain ⟨year, month, day⟩ := d
  obtain ⟨⟨least, greatest⟩, first, -⟩ := exist
  dsimp only at least greatest first
  unfold ofYearDay
  dsimp only
  rw [within]
  simp only [marchYear, marchMonth, dayInYear]
  by_cases early : month ≤ 2
  · simp only [if_pos early]
    rw [if_neg (by omega), mk.injEq]
    omega
  · simp only [if_neg early]
    rw [if_pos (by omega), mk.injEq]
    omega

/-! ## Numbers and dates -/

/-- The date with a number is on the calendar. -/
theorem onCalendar_ofDays (n : Int) : (ofDays n).OnCalendar := by
  obtain ⟨year, day, has, -, made⟩ := exists_ofYearDay n
  exact made ▸ onCalendar_ofYearDay has

theorem toDays_ofDays (n : Int) : (ofDays n).toDays = n := by
  obtain ⟨year, day, has, number, made⟩ := exists_ofYearDay n
  obtain ⟨sameYear, sameDay⟩ := ofYearDay_apart has
  rw [toDays_eq, made, sameYear, sameDay, number]

/-- A year from March on and a day of it are determined by the number of the day. -/
theorem HasDay.unique {year year' day day' : Int} (has : HasDay year day) (has' : HasDay year' day')
    (same : yearStart year + day = yearStart year' + day') : year = year' ∧ day = day' := by
  obtain ⟨first, ends⟩ := has
  obtain ⟨first', ends'⟩ := has'
  have years : year = year' := by
    rcases Int.lt_trichotomy year year' with before | equal | behind
    · have order := yearStart_mono (Int.add_one_le_of_lt before)
      omega
    · exact equal
    · have order := yearStart_mono (Int.add_one_le_of_lt behind)
      omega
  subst years
  exact ⟨rfl, by omega⟩

/-- No other date of the calendar has the same number. -/
theorem ofDays_toDays {d : Date} (exist : d.OnCalendar) : ofDays d.toDays = d := by
  obtain ⟨year, day, has, number, made⟩ := exists_ofYearDay d.toDays
  rw [toDays_eq] at number
  obtain ⟨rfl, rfl⟩ := exist.inMonth.2.2.unique has (by omega)
  rw [made, ofYearDay_eq exist]

/-- Later days are not in earlier years. -/
theorem year_mono {m n : Int} (order : m ≤ n) : (ofDays m).year ≤ (ofDays n).year := by
  obtain ⟨year, day, has, number, made⟩ := exists_ofYearDay m
  obtain ⟨year', day', has', number', made'⟩ := exists_ofYearDay n
  have years : year ≤ year' := by
    by_contra behind
    have ordered := yearStart_mono (Int.add_one_le_of_lt (Int.not_le.mp behind))
    have first := has.1
    have ends := has'.2
    omega
  rw [made, made']
  unfold ofYearDay
  dsimp only
  split <;> split <;> dsimp only
  · exact years
  · omega
  · -- the first day is behind December and the second one is not, so they are not in one year from March on
    rcases Int.lt_or_eq_of_le years with before | rfl
    · exact Int.add_one_le_of_lt before
    · omega
  · omega

end MockSchema.Date
