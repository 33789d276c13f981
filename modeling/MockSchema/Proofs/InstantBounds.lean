import Mathlib.Algebra.Group.Int.Defs
import Mathlib.Algebra.Group.Nat.Defs
import Mathlib.Data.List.TakeWhile
import MockSchema.Proofs.IntegerText
import MockSchema.Timestamp.Parse

/-!
# How far instants reach

A date and a time that are read are put together from parts within their bounds (`Instant.parseFull_eq_some`).
A date in the range of years is at most a hundred million days from the start of 1970, so the seconds of
every instant that is read from a text fit into a signed word many times over (`Instant.parse?_fits`).
-/

namespace MockSchema

theorem Date.monthLength_le (year : Int) (month : Nat) : monthLength year month ≤ 31 := by
  unfold monthLength
  split
  · split <;> decide
  · split <;> decide

theorem Date.toDays_bounds {d : Date} (valid : d.isValid = true) :
    -100000000 ≤ d.toDays ∧ d.toDays ≤ 100000000 := by
  obtain ⟨year, month, day⟩ := d
  simp only [isValid, Bool.and_eq_true, decide_eq_true_eq] at valid
  obtain ⟨⟨⟨⟨⟨least, greatest⟩, first⟩, last⟩, -⟩, short⟩ := valid
  simp only [firstYear, lastYear] at least greatest
  have length := monthLength_le year month
  simp only [toDays, cycleDays, epochShift]
  split <;> omega

namespace Instant

/-- The seconds are a signed word. -/
def Fits (t : Instant) : Prop := -2 ^ 63 ≤ t.seconds ∧ t.seconds < 2 ^ 63

theorem takeField_bounds {width low high n : Nat} {cs rest : List Char}
    (read : takeField width low high cs = some (n, rest)) : low ≤ n ∧ n ≤ high := by
  unfold takeField at read
  split at read
  · split at read
    · next inside =>
      cases read
      exact inside
    · cases read
  · cases read

theorem ofDigitChars_lt {digits : List Char} (all : ∀ c ∈ digits, c.isDigit = true) (n : Nat) :
    Nat.ofDigitChars 10 digits n < (n + 1) * 10 ^ digits.length := by
  induction digits generalizing n with
  | nil => simp
  | cons c digits ih =>
    obtain ⟨first, all⟩ := List.forall_mem_cons.mp all
    have bounds := Text.isDigit_bounds first
    have digit : c.toNat - '0'.toNat < 10 := by
      simp only [Char.reduceToNat]
      omega
    rw [Nat.ofDigitChars_cons, List.length_cons, Nat.pow_succ']
    calc Nat.ofDigitChars 10 digits (10 * n + (c.toNat - '0'.toNat))
        < (10 * n + (c.toNat - '0'.toNat) + 1) * 10 ^ digits.length := ih all _
      _ ≤ (10 * (n + 1)) * 10 ^ digits.length := Nat.mul_le_mul_right _ (by omega)
      _ = (n + 1) * (10 * 10 ^ digits.length) := by rw [Nat.mul_comm 10, Nat.mul_assoc]

/-- A number that is taken is below the power of ten of its digits. -/
theorem takeNumber_lt {least most n : Nat} {cs rest : List Char}
    (read : takeNumber least most cs = some (n, rest)) :
    n < 10 ^ (cs.length - rest.length) ∧ cs.length - rest.length ≤ most := by
  unfold takeNumber at read
  dsimp only at read
  split at read
  · cases read
  · next some =>
    have all : ∀ c ∈ (cs.take most).takeWhile Char.isDigit, c.isDigit = true :=
      fun c member => List.mem_takeWhile_imp member
    have nonempty : (cs.take most).takeWhile Char.isDigit ≠ [] := by
      simpa using (not_or.mp some).2
    rw [Text.readNat?_of_digits nonempty all] at read
    cases read
    have short : ((cs.take most).takeWhile Char.isDigit).length ≤ (cs.take most).length :=
      (List.takeWhile_prefix _).length_le
    rw [List.length_take] at short
    have below := ofDigitChars_lt all 0
    rw [Nat.zero_add, Nat.one_mul] at below
    rw [List.length_drop, Nat.sub_sub_self (by omega)]
    exact ⟨below, by omega⟩

/-- The fraction is less than a second. -/
theorem takeFraction_lt {nanos : Nat} {cs rest : List Char}
    (read : takeFraction cs = some (nanos, rest)) : nanos < leapNanos := by
  unfold takeFraction at read
  split at read
  · next r =>
    obtain ⟨⟨n, left⟩, taken, made⟩ := Option.bind_eq_some_iff.mp read
    cases made
    obtain ⟨below, short⟩ := takeNumber_lt taken
    calc n * Nat.pow 10 (9 - (r.length - left.length))
        < 10 ^ (r.length - left.length) * 10 ^ (9 - (r.length - left.length)) :=
          Nat.mul_lt_mul_of_pos_right below (Nat.pow_pos (by decide))
      _ = leapNanos := by rw [← Nat.pow_add, Nat.add_sub_cancel' short]; rfl
  · cases read
    decide

/-- An offset is less than a day and has no seconds of its own. -/
theorem takeOffset_bounds {cs rest : List Char} {offset : Int}
    (read : takeOffset cs = some (offset, rest)) :
    (-86400 ≤ offset ∧ offset ≤ 86400) ∧ offset % 60 = 0 := by
  unfold takeOffset at read
  split at read
  · cases read
  · split at read
    · cases read
      decide
    · split at read
      · obtain ⟨⟨hours, _⟩, readHours, read⟩ := Option.bind_eq_some_iff.mp read
        obtain ⟨_, -, read⟩ := Option.bind_eq_some_iff.mp read
        obtain ⟨⟨minutes, _⟩, readMinutes, made⟩ := Option.bind_eq_some_iff.mp read
        have hour := takeField_bounds readHours
        have minute := takeField_bounds readMinutes
        cases made
        split <;> omega
      · cases read

/-- The parts of a timestamp are in their bounds. -/
structure HasParts (d : Date) (hour minute second nanos : Nat) (offset : Int) : Prop where
  date : d.isValid = true
  hour : hour ≤ 23
  minute : minute ≤ 59
  second : second ≤ 60
  nanos : nanos < leapNanos
  offset : (-86400 ≤ offset ∧ offset ≤ 86400) ∧ offset % 60 = 0

/-- A date and a time that are read are put together from parts. -/
theorem parseFull_eq_some {cs : List Char} {t : Instant} (read : parseFull cs = some t) :
    ∃ d hour minute second nanos offset, HasParts d hour minute second nanos offset ∧
      t = ⟨d.toDays * daySeconds + (hour * 3600 + minute * 60 + min second 59 : Nat) - offset,
        nanos + if second = 60 then leapNanos else 0⟩ := by
  obtain ⟨⟨year, _⟩, -, read⟩ := Option.bind_eq_some_iff.mp read
  obtain ⟨_, -, read⟩ := Option.bind_eq_some_iff.mp read
  obtain ⟨⟨month, _⟩, -, read⟩ := Option.bind_eq_some_iff.mp read
  obtain ⟨_, -, read⟩ := Option.bind_eq_some_iff.mp read
  obtain ⟨⟨day, _⟩, -, read⟩ := Option.bind_eq_some_iff.mp read
  obtain ⟨_, -, read⟩ := Option.bind_eq_some_iff.mp read
  obtain ⟨⟨hour, _⟩, readHour, read⟩ := Option.bind_eq_some_iff.mp read
  obtain ⟨_, -, read⟩ := Option.bind_eq_some_iff.mp read
  obtain ⟨⟨minute, _⟩, readMinute, read⟩ := Option.bind_eq_some_iff.mp read
  obtain ⟨_, -, read⟩ := Option.bind_eq_some_iff.mp read
  obtain ⟨⟨second, _⟩, readSecond, read⟩ := Option.bind_eq_some_iff.mp read
  obtain ⟨⟨nanos, _⟩, readFraction, read⟩ := Option.bind_eq_some_iff.mp read
  obtain ⟨⟨offset, _⟩, readOffset, made⟩ := Option.bind_eq_some_iff.mp read
  dsimp only at made
  split at made
  · next ended =>
    cases made
    exact ⟨_, hour, minute, second, nanos, offset,
      ⟨(Bool.and_eq_true_iff.mp ended).2, (takeField_bounds readHour).2, (takeField_bounds readMinute).2,
        (takeField_bounds readSecond).2, takeFraction_lt readFraction, takeOffset_bounds readOffset⟩, rfl⟩
  · cases made

/-- A date alone is read as its first second. -/
theorem parseDate_eq_some {cs : List Char} {t : Instant} (read : parseDate cs = some t) :
    ∃ d : Date, d.isValid = true ∧ t = ofDate d := by
  obtain ⟨⟨year, _⟩, -, read⟩ := Option.bind_eq_some_iff.mp read
  obtain ⟨_, -, read⟩ := Option.bind_eq_some_iff.mp read
  obtain ⟨⟨month, _⟩, -, read⟩ := Option.bind_eq_some_iff.mp read
  obtain ⟨_, -, read⟩ := Option.bind_eq_some_iff.mp read
  obtain ⟨⟨day, _⟩, -, made⟩ := Option.bind_eq_some_iff.mp read
  dsimp only at made
  split at made
  · next ended =>
    cases made
    exact ⟨_, (Bool.and_eq_true_iff.mp ended).2, rfl⟩
  · cases made

theorem parseFull_fits {cs : List Char} {t : Instant} (read : parseFull cs = some t) : t.Fits := by
  obtain ⟨d, hour, minute, second, nanos, offset, has, rfl⟩ := parseFull_eq_some read
  obtain ⟨valid, hours, minutes, -, -, offsets, -⟩ := has
  have days := Date.toDays_bounds valid
  simp only [Fits, daySeconds]
  omega

theorem parseDate_fits {cs : List Char} {t : Instant} (read : parseDate cs = some t) : t.Fits := by
  obtain ⟨d, valid, rfl⟩ := parseDate_eq_some read
  have days := Date.toDays_bounds valid
  simp only [Fits, ofDate, daySeconds]
  omega

theorem parse?_fits {text : String} {t : Instant} (read : parse? text = some t) : t.Fits := by
  unfold parse? at read
  split at read
  · next full =>
    cases read
    exact parseFull_fits full
  · exact parseDate_fits read

end Instant

end MockSchema
