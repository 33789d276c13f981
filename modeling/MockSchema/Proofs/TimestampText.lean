import MockSchema.Proofs.DayNumbers
import MockSchema.Proofs.InstantBounds
import MockSchema.Proofs.IntegerText

/-!
# Timestamps written and read

In a year of four digits an instant is written as a text that is read as its second (`Instant.parse?_text`): the
day comes back since it is determined by its number, the time since it is taken apart into hours, minutes and
seconds and put together again, and a leap second since it is only read at the end of a minute, which stays one
under every offset (`Instant.Regular`). In any other year the text begins with a sign and is not read
(`Instant.parse?_text_eq_none`). So whatever is read in such a year can be written and read again
(`Instant.parse?_text_of_parse?`).
-/

namespace MockSchema.Instant

/-! ## Digits of fixed width -/

theorem isDigit_of_mem_twoDigits {n : Nat} : ∀ c ∈ twoDigits n, c.isDigit = true := by
  simp only [twoDigits, List.forall_mem_cons, Nat.isDigit_digitChar]
  refine ⟨?_, ?_, by simp⟩ <;> simp <;> omega

theorem ofDigitChars_twoDigits {n : Nat} (small : n < 100) :
    Nat.ofDigitChars 10 (twoDigits n) 0 = n := by
  rw [twoDigits, Nat.ofDigitChars_cons_digitChar_of_lt_ten (by omega),
    Nat.ofDigitChars_cons_digitChar_of_lt_ten (by omega), Nat.ofDigitChars_nil]
  omega

theorem length_twoDigits (n : Nat) : (twoDigits n).length = 2 := rfl

theorem twoDigits_ne_nil (n : Nat) : twoDigits n ≠ [] := List.cons_ne_nil _ _

/-- Digits followed by something else, or as many as are asked for, are taken whole. -/
theorem takeNumber_append {least most : Nat} {digits rest : List Char} (nonempty : digits ≠ [])
    (all : ∀ c ∈ digits, c.isDigit = true) (enough : least ≤ digits.length)
    (fits : digits.length ≤ most)
    (stops : digits.length = most ∨ ∀ c ∈ rest.head?, c.isDigit = false) :
    takeNumber least most (digits ++ rest) = some (Nat.ofDigitChars 10 digits 0, rest) := by
  have ends : ∀ c ∈ (rest.take (most - digits.length)).head?, c.isDigit = false := by
    rcases stops with full | other
    · simp [full]
    · intro c head
      rw [List.head?_take] at head
      split at head
      · cases head
      · exact other c head
  have taken : ((digits ++ rest).take most).takeWhile Char.isDigit = digits := by
    rw [List.take_append, List.take_of_length_le fits]
    exact (takeWhile_run all ends).1
  unfold takeNumber
  rw [taken]
  dsimp only
  rw [if_neg (by simp [nonempty]; omega), Text.readNat?_of_digits nonempty all, Option.map_some, List.drop_left]

/-- A number in a field of its width is read if it is inside the bounds. -/
theorem takeField_append {width low high : Nat} {digits rest : List Char} (nonempty : digits ≠ [])
    (all : ∀ c ∈ digits, c.isDigit = true) (full : digits.length = width)
    (least : low ≤ Nat.ofDigitChars 10 digits 0) (most : Nat.ofDigitChars 10 digits 0 ≤ high) :
    takeField width low high (digits ++ rest) = some (Nat.ofDigitChars 10 digits 0, rest) := by
  unfold takeField
  rw [takeNumber_append nonempty all full.ge full.le (.inl full)]
  exact if_pos ⟨least, most⟩

theorem takeField_twoDigits {n low high : Nat} (small : n < 100) (least : low ≤ n) (most : n ≤ high)
    (rest : List Char) : takeField 2 low high (twoDigits n ++ rest) = some (n, rest) := by
  have value := ofDigitChars_twoDigits small
  rw [takeField_append (twoDigits_ne_nil n) isDigit_of_mem_twoDigits (length_twoDigits n)
    (value.ge.trans' least) (value.le.trans most), value]

theorem takeField_year {year : Int} (first : 0 ≤ year) (last : year ≤ 9999) (rest : List Char) :
    takeField 4 0 9999 (yearChars year ++ rest) = some (year.toNat, rest) := by
  have value : Nat.ofDigitChars 10 (twoDigits (year.toNat / 100) ++ twoDigits (year.toNat % 100)) 0 =
      year.toNat := by
    rw [Nat.ofDigitChars_append, ofDigitChars_twoDigits (by omega), Nat.ofDigitChars_eq_ofDigitChars_zero,
      ofDigitChars_twoDigits (by omega), length_twoDigits]
    omega
  have all : ∀ c ∈ twoDigits (year.toNat / 100) ++ twoDigits (year.toNat % 100), c.isDigit = true :=
    List.forall_mem_append.mpr ⟨isDigit_of_mem_twoDigits, isDigit_of_mem_twoDigits⟩
  unfold yearChars
  rw [if_pos ⟨first, last⟩, takeField_append (by simp [twoDigits]) all (by simp [twoDigits])
    (Nat.zero_le _) (by omega), value]

theorem takeChar_cons {choices : List Char} {c : Char} (choice : c ∈ choices) (rest : List Char) :
    takeChar choices (c :: rest) = some rest := if_pos choice

/-! ## Texts -/

/-- The date in universal time. -/
def date (t : Instant) : Date := Date.ofDays (t.seconds / daySeconds)

theorem onCalendar_date (t : Instant) : t.date.OnCalendar := Date.onCalendar_ofDays _

theorem toDays_date (t : Instant) : t.date.toDays = t.seconds / daySeconds := Date.toDays_ofDays _

/-- The instant at the beginning of its second; a leap second stays one. -/
def wholeSecond (t : Instant) : Instant := ⟨t.seconds, if leapNanos ≤ t.nanos then leapNanos else 0⟩

/-- A leap second is at the end of a minute, and a second has no more than its nanoseconds. -/
def Regular (t : Instant) : Prop :=
  t.nanos < 2 * leapNanos ∧ (leapNanos ≤ t.nanos → t.seconds % 60 = 59)

/-- The year has four digits. -/
def FourDigits (t : Instant) : Prop := 0 ≤ t.date.year ∧ t.date.year ≤ 9999

/-- A date and a time as they are written. -/
def written (d : Date) (hour minute second : Nat) : List Char :=
  yearChars d.year ++ '-' :: (twoDigits d.month ++ '-' :: (twoDigits d.day ++ 'T' :: (twoDigits hour ++
    ':' :: (twoDigits minute ++ ':' :: (twoDigits second ++ ['Z'])))))

theorem chars_eq (t : Instant) : t.chars = written t.date ((t.seconds % daySeconds).toNat / 3600)
    ((t.seconds % daySeconds).toNat / 60 % 60)
    ((t.seconds % daySeconds).toNat % 60 + if leapNanos ≤ t.nanos then 1 else 0) := by
  simp only [chars, written, date, List.append_assoc, List.cons_append]

theorem parseFull_written {d : Date} {hour minute second : Nat} (exist : d.OnCalendar)
    (first : 0 ≤ d.year) (last : d.year ≤ 9999) (hours : hour ≤ 23) (minutes : minute ≤ 59)
    (seconds : second ≤ 60) : parseFull (written d hour minute second) =
      some ⟨d.toDays * daySeconds + (hour * 3600 + minute * 60 + min second 59 : Nat),
        if second = 60 then leapNanos else 0⟩ := by
  have valid : d.isValid = true :=
    exist.isValid (Int.le_trans (by decide) first) (Int.le_trans last (by decide))
  have short := Date.monthLength_le d.year d.month
  obtain ⟨⟨_, _⟩, _, _⟩ := exist
  have same : (⟨(d.year.toNat : Int), d.month, d.day⟩ : Date) = d := by
    rw [Int.toNat_of_nonneg first]
  unfold parseFull written
  have dash : '-' ∈ ['-'] := by decide
  have colon : ':' ∈ [':'] := by decide
  refine Option.bind_eq_some_iff.mpr ⟨_, takeField_year first last _, ?_⟩
  refine Option.bind_eq_some_iff.mpr ⟨_, takeChar_cons dash _, ?_⟩
  refine Option.bind_eq_some_iff.mpr ⟨_, takeField_twoDigits (by omega) (by omega) (by omega) _, ?_⟩
  refine Option.bind_eq_some_iff.mpr ⟨_, takeChar_cons dash _, ?_⟩
  refine Option.bind_eq_some_iff.mpr ⟨_, takeField_twoDigits (by omega) (by omega) (by omega) _, ?_⟩
  refine Option.bind_eq_some_iff.mpr ⟨_, takeChar_cons (by decide) _, ?_⟩
  refine Option.bind_eq_some_iff.mpr ⟨_, takeField_twoDigits (by omega) (by omega) hours _, ?_⟩
  refine Option.bind_eq_some_iff.mpr ⟨_, takeChar_cons colon _, ?_⟩
  refine Option.bind_eq_some_iff.mpr ⟨_, takeField_twoDigits (by omega) (by omega) minutes _, ?_⟩
  refine Option.bind_eq_some_iff.mpr ⟨_, takeChar_cons colon _, ?_⟩
  refine Option.bind_eq_some_iff.mpr ⟨_, takeField_twoDigits (by omega) (by omega) seconds _, ?_⟩
  refine Option.bind_eq_some_iff.mpr ⟨(0, ['Z']), rfl, ?_⟩
  refine Option.bind_eq_some_iff.mpr ⟨(0, []), rfl, ?_⟩
  dsimp only
  rw [same, valid]
  simp

/-- Taking the date and the time of an instant apart and putting them together again. -/
theorem parseFull_chars {t : Instant} (regular : t.Regular) (year : t.FourDigits) :
    parseFull t.chars = some t.wholeSecond := by
  have day : 0 ≤ t.seconds % daySeconds ∧ t.seconds % daySeconds < 86400 :=
    ⟨Int.emod_nonneg _ (by decide), Int.emod_lt_of_pos _ (by decide)⟩
  have whole := Int.ediv_mul_add_emod t.seconds daySeconds
  have minute : t.seconds % 60 = t.seconds % daySeconds % 60 := (Int.emod_emod_of_dvd _ (by decide)).symm
  obtain ⟨-, leap⟩ := regular
  rw [minute] at leap
  rw [chars_eq, parseFull_written t.onCalendar_date year.1 year.2 (by omega) (by omega)
    (by split <;> omega), toDays_date]
  unfold wholeSecond
  generalize t.seconds % daySeconds = second at *
  congr 2
  · split <;> omega
  · by_cases leaps : leapNanos ≤ t.nanos
    · have last := leap leaps
      rw [if_pos leaps, if_pos leaps, if_pos (by omega)]
    · rw [if_neg leaps, if_neg leaps, if_neg (by omega)]

/-! ## Other years -/

theorem isWhiteSpace_of_isDigit {c : Char} (digit : c.isDigit = true) :
    Unicode.isWhiteSpace c = false := by
  have bounds := Text.isDigit_bounds digit
  apply Unicode.isWhiteSpace_of_visible
  omega

theorem takeShort_twoDigits (n : Nat) (rest : List Char) :
    takeShort (twoDigits n ++ rest) = some (Nat.ofDigitChars 10 (twoDigits n) 0, rest) := by
  have first : Unicode.isWhiteSpace (n / 10 % 10).digitChar = false :=
    isWhiteSpace_of_isDigit (isDigit_of_mem_twoDigits _ List.mem_cons_self)
  unfold takeShort
  rw [twoDigits, List.cons_append, List.dropWhile_cons_of_neg (by simp [first])]
  exact takeNumber_append (twoDigits_ne_nil n) isDigit_of_mem_twoDigits (by simp [twoDigits]) le_rfl (.inl rfl)

/-- A year that is not of four digits has a sign and no fewer digits. -/
theorem yearChars_signed {year : Int} (other : ¬ (0 ≤ year ∧ year ≤ 9999)) :
    ∃ sign digits, (sign = '-' ∨ sign = '+') ∧ digits ≠ [] ∧ (∀ c ∈ digits, c.isDigit = true) ∧
      yearChars year = sign :: digits := by
  unfold yearChars
  rw [if_neg other]
  refine ⟨_, _, ?_, ?_, ?_, rfl⟩
  · split
    · exact .inl rfl
    · exact .inr rfl
  · simp [Nat.toDigits_ne_nil]
  · intro c member
    rcases List.mem_append.mp member with zero | digit
    · rw [(List.mem_replicate.mp zero).2]
      rfl
    · exact isDigit_of_mem_decimal digit

theorem takeYear_signed {mark : Char} {digits rest : List Char} (signed : mark = '-' ∨ mark = '+')
    (nonempty : digits ≠ []) (all : ∀ c ∈ digits, c.isDigit = true)
    (stops : ∀ c ∈ rest.head?, c.isDigit = false) :
    ∃ year, takeYear (mark :: digits ++ rest) = some (year, rest) := by
  have taken : takeNumber 1 (digits ++ rest).length (digits ++ rest) =
      some (Nat.ofDigitChars 10 digits 0, rest) :=
    takeNumber_append nonempty all (List.length_pos_iff.mpr nonempty) (by simp) (.inr stops)
  rcases signed with rfl | rfl
  · have read : takeYear ('-' :: (digits ++ rest)) =
        (takeNumber 1 (digits ++ rest).length (digits ++ rest)).map fun p => (-(p.1 : Int), p.2) := rfl
    rw [List.cons_append, read, taken]
    exact ⟨_, rfl⟩
  · have read : takeYear ('+' :: (digits ++ rest)) =
        (takeNumber 1 (digits ++ rest).length (digits ++ rest)).map fun p => ((p.1 : Int), p.2) := rfl
    rw [List.cons_append, read, taken]
    exact ⟨_, rfl⟩

/-- A date alone is not followed by a time. -/
theorem parseDate_signed {mark : Char} {digits : List Char} (signed : mark = '-' ∨ mark = '+')
    (nonempty : digits ≠ []) (all : ∀ c ∈ digits, c.isDigit = true) (month day : Nat)
    (time : List Char) : parseDate (mark :: digits ++ '-' :: (twoDigits month ++
      '-' :: (twoDigits day ++ 'T' :: time))) = none := by
  have dash (rest : List Char) : takeChar ['-'] ('-' :: rest) = some rest := rfl
  have stops : ∀ c ∈ ('-' :: (twoDigits month ++ '-' :: (twoDigits day ++ 'T' :: time))).head?,
      c.isDigit = false := by simp
  obtain ⟨year, read⟩ := takeYear_signed signed nonempty all stops
  unfold parseDate
  simp only [read, dash, takeShort_twoDigits, bind, Option.bind]
  rfl

/-- With a year that is not of four digits a timestamp is not read again, for it does not begin with a digit. -/
theorem parse?_text_eq_none {t : Instant} (year : ¬ t.FourDigits) : parse? t.text = none := by
  obtain ⟨mark, digits, signed, nonempty, all, begins⟩ := yearChars_signed year
  have full : parseFull t.chars = none := by
    rw [chars_eq, written, begins]
    rcases signed with rfl | rfl <;> rfl
  unfold parse? text
  rw [String.toList_ofList, full, chars_eq, written, begins]
  exact parseDate_signed signed nonempty all _ _ _

/-! ## Instants that are read -/

theorem ofDate_regular (d : Date) : (ofDate d).Regular := by simp [Regular, ofDate, leapNanos]

/-- Whatever is read has a leap second only at the end of a minute: offsets are whole minutes. -/
theorem parse?_regular {text : String} {t : Instant} (read : parse? text = some t) : t.Regular := by
  unfold parse? at read
  split at read
  · next full =>
    cases read
    obtain ⟨d, hour, minute, second, nanos, offset, has, rfl⟩ := parseFull_eq_some full
    have fraction := has.nanos
    have minutes := has.offset.2
    refine ⟨?_, fun leaps => ?_⟩
    · dsimp only
      split <;> omega
    · dsimp only at leaps ⊢
      simp only [daySeconds]
      split at leaps <;> omega
  · obtain ⟨d, -, rfl⟩ := parseDate_eq_some read
    exact ofDate_regular d

/-- What a timestamp of four digits is read as: the instant that it is written for, to the second. -/
theorem parse?_text {t : Instant} (regular : t.Regular) (year : t.FourDigits) :
    parse? t.text = some t.wholeSecond := by
  unfold parse? text
  rw [String.toList_ofList, parseFull_chars regular year]

/-- Below the second nothing is written. -/
theorem text_wholeSecond (t : Instant) : t.wholeSecond.text = t.text := by
  have leap : leapNanos ≤ t.wholeSecond.nanos ↔ leapNanos ≤ t.nanos := by
    unfold wholeSecond
    split
    · next leaps => exact iff_of_true (Nat.le_refl _) leaps
    · next plain => exact iff_of_false (by simp [leapNanos]) plain
  unfold text chars
  simp only [leap]
  rfl

/-- An instant that was read, in a year of four digits, is written as a text that is read as the same instant
without the part of its second, and that instant is written as the same text. -/
theorem parse?_text_of_parse? {source : String} {t : Instant} (read : parse? source = some t)
    (first : 0 ≤ t.date.year) (last : t.date.year ≤ 9999) :
    parse? t.text = some t.wholeSecond ∧ t.wholeSecond.text = t.text :=
  ⟨parse?_text (parse?_regular read) ⟨first, last⟩, t.text_wholeSecond⟩

/-- A leap second at the end of year zero. It is given by an offset under which the next year has begun. -/
theorem parse?_text_of_parse?_leap :
    let t : Instant := ⟨-62135596801, 1500000000⟩
    parse? "0001-01-01T05:29:60.5+05:30" = some t ∧ t.date.year = 0 ∧
      parse? t.text = some ⟨-62135596801, 1000000000⟩ ∧ t.wholeSecond.text = t.text := by
  intro t
  have read : parse? "0001-01-01T05:29:60.5+05:30" = some t := by decide
  have year : t.date.year = 0 := by decide
  exact ⟨read, year, parse?_text_of_parse? read (by decide) (by decide)⟩

end MockSchema.Instant
