import MockSchema.Encode.Json
import MockSchema.Proofs.JsonReader
import MockSchema.Proofs.Numeral

/-!
# JSON numbers are read back

An integer is written without a fraction and without an exponent and is read as the integer
(`number?_intChars`). A finite float is written with one of them and is read as the float (`number?_float`).
-/

namespace MockSchema.Json

/-! ## Integers are read back -/

theorem skipDigits?_of_digits {ds rest : List Char} (nonempty : ds ≠ [])
    (all : ∀ c ∈ ds, c.isDigit = true) (ends : ∀ c ∈ rest.head?, c.isDigit = false) :
    skipDigits? (ds ++ rest) = some rest := by
  obtain ⟨taken, dropped⟩ := takeWhile_run all ends
  rw [skipDigits?, taken, dropped, if_neg nonempty]

theorem skipDigits?_toDigits (k : Nat) : skipDigits? (Nat.toDigits 10 k) = some [] := by
  have digits : skipDigits? (Nat.toDigits 10 k ++ []) = some [] :=
    skipDigits?_of_digits Nat.toDigits_ne_nil (fun c => isDigit_of_mem_decimal) (by simp)
  rwa [List.append_nil] at digits

/-- Digits without a zero in front, or a single zero, are an integer whatever follows them. -/
theorem skipWhole?_of_digits {ds rest : List Char} (first : ds = ['0'] ∨ Significant ds)
    (all : ∀ c ∈ ds, c.isDigit = true) (ends : ∀ c ∈ rest.head?, c.isDigit = false) :
    skipWhole? (ds ++ rest) = some rest := by
  rcases first with rfl | first
  · rfl
  · have digits := skipDigits?_of_digits first.ne_nil all ends
    obtain ⟨c, r, rfl, nonzero⟩ := first
    rw [List.cons_append, skipWhole?.eq_2 _ (by simpa using nonzero), ← List.cons_append, digits]

theorem unsigned_intChars (i : Int) : unsigned (Value.intChars i) = Nat.toDigits 10 i.natAbs := by
  unfold Value.intChars
  split
  · rfl
  · obtain ⟨c, r, digits, minus, -⟩ := toDigits_unsigned i.natAbs
    rw [digits, unsigned.eq_2 _ (by simpa using minus)]

/-- An integer is a number without fraction and exponent. -/
theorem number?_intChars (i : Int64) : number? (Value.intChars i.toInt) = some (.int i) := by
  have whole : skipWhole? (Nat.toDigits 10 i.toInt.natAbs ++ []) = some [] :=
    skipWhole?_of_digits ((toDigits_head _).imp And.right And.right)
      (fun c => isDigit_of_mem_decimal) (by simp)
  rw [List.append_nil] at whole
  rw [number?, unsigned_intChars, whole, Option.bind_some, if_pos rfl, Text.readInt64?_intChars,
    Option.map_some]

/-! ## Floats are read back -/

section Numeral

open Binary64

variable (n : Numeral)

theorem unsigned_numeral (negative : Bool) :
    unsigned ((if negative then ['-'] else []) ++ n.chars) = n.chars := by
  obtain ⟨c, r, chars, digit⟩ := n.chars_eq_cons
  cases negative with
  | true => rfl
  | false =>
    have minus : c ≠ '-' := by
      rintro rfl
      cases digit
    rw [if_neg Bool.false_ne_true, List.nil_append, chars, unsigned.eq_2 _ (by simpa using minus)]

theorem skipFraction?_numeral :
    skipFraction? (n.fractionChars ++ n.exponentChars) = some n.exponentChars := by
  by_cases none : n.fraction = []
  · have absent : n.fractionChars ++ n.exponentChars = n.exponentChars := by
      simp [Numeral.fractionChars, none]
    have apart : ∀ r, n.exponentChars ≠ '.' :: r := by
      intro r point
      have head : '.' ∈ n.exponentChars.head? := by rw [point]; rfl
      exact (n.exponentChars_head '.' head).2 rfl
    rw [absent, skipFraction?.eq_2 _ apart]
  · have point : n.fractionChars ++ n.exponentChars = '.' :: (n.fraction ++ n.exponentChars) := by
      simp [Numeral.fractionChars, none]
    rw [point, skipFraction?, skipDigits?_of_digits none n.fraction_digits]
    exact fun c head => (n.exponentChars_head c head).1

theorem skipExponent?_numeral : skipExponent? n.exponentChars = some [] := by
  unfold Numeral.exponentChars
  cases n.exponent with
  | none => rfl
  | some k =>
    have digits := skipDigits?_toDigits k.natAbs
    by_cases negative : k < 0
    · simp [skipExponent?, negative, digits]
    · simp [skipExponent?, negative, digits]

/-- A sign and a numeral are a number with a fraction or an exponent. -/
theorem number?_numeral (negative : Bool) :
    number? ((if negative then ['-'] else []) ++ n.chars) =
      (Binary64.read? ((if negative then ['-'] else []) ++ n.chars)).map .float := by
  have whole : skipWhole? n.chars = some (n.fractionChars ++ n.exponentChars) :=
    skipWhole?_of_digits n.first n.whole_digits n.behind_head
  rw [number?, unsigned_numeral, whole, Option.bind_some, if_neg n.behind_ne_nil,
    skipFraction?_numeral, Option.bind_some, skipExponent?_numeral, Option.bind_some, if_pos rfl]

end Numeral

/-- The text of a finite float is read as the float. -/
theorem number?_float {x : Binary64} (finite : x.isFinite = true) :
    number? (float x) = some (.float x) := by
  obtain ⟨n, text, -⟩ := Binary64.scientific_eq finite
  have read := Binary64.read?_scientific finite
  rw [text, Binary64.signChars] at read
  rw [float, if_pos finite, text, Binary64.signChars, number?_numeral, read, Option.map_some]

/-! ## Characters of numbers -/

/-- The characters that numbers are made of. -/
def IsNumberChar (c : Char) : Prop := c.isDigit = true ∨ c ∈ ['-', '+', '.', 'e', 'E']

/-- Part of a number stands in front of a text. -/
def Skips (cs rest : List Char) : Prop := ∃ part, cs = part ++ rest ∧ ∀ c ∈ part, IsNumberChar c

theorem Skips.refl (cs : List Char) : Skips cs cs := ⟨[], rfl, by simp⟩

theorem Skips.cons {c : Char} (number : IsNumberChar c) {cs rest : List Char} (h : Skips cs rest) :
    Skips (c :: cs) rest := by
  obtain ⟨part, rfl, all⟩ := h
  exact ⟨c :: part, rfl, List.forall_mem_cons.mpr ⟨number, all⟩⟩

theorem Skips.trans {a b c : List Char} (h : Skips a b) (h' : Skips b c) : Skips a c := by
  obtain ⟨part, rfl, all⟩ := h
  obtain ⟨part', rfl, all'⟩ := h'
  exact ⟨part ++ part', (List.append_assoc ..).symm, List.forall_mem_append.mpr ⟨all, all'⟩⟩

theorem skips_of_skipDigits? {cs rest : List Char} (h : skipDigits? cs = some rest) :
    Skips cs rest := by
  unfold skipDigits? at h
  split at h
  · cases h
  · cases h
    exact ⟨_, List.takeWhile_append_dropWhile.symm, fun c member => .inl (List.mem_takeWhile_imp member)⟩

theorem skips_of_skipWhole? {cs rest : List Char} (h : skipWhole? cs = some rest) :
    Skips cs rest := by
  unfold skipWhole? at h
  split at h
  · cases h
    exact .cons (.inl rfl) (.refl _)
  · exact skips_of_skipDigits? h

theorem skips_of_skipFraction? {cs rest : List Char} (h : skipFraction? cs = some rest) :
    Skips cs rest := by
  unfold skipFraction? at h
  split at h
  · exact .cons (.inr (by decide)) (skips_of_skipDigits? h)
  · cases h
    exact .refl _

theorem skips_of_skipExponent? {cs rest : List Char} (h : skipExponent? cs = some rest) :
    Skips cs rest := by
  unfold skipExponent? at h
  split at h
  · cases h
    exact .refl _
  split at h
  · next mark =>
    have marked : ∀ {c : Char}, c = 'e' ∨ c = 'E' → IsNumberChar c := by
      rintro c (rfl | rfl)
      · exact .inr (by decide)
      · exact .inr (by decide)
    refine .cons (marked mark) ?_
    split at h
    · exact .cons (.inr (by decide)) (skips_of_skipDigits? h)
    · exact .cons (.inr (by decide)) (skips_of_skipDigits? h)
    · exact skips_of_skipDigits? h
  · cases h
    exact .refl _

theorem skips_unsigned (cs : List Char) : Skips cs (unsigned cs) := by
  unfold unsigned
  split
  · exact .cons (.inr (by decide)) (.refl _)
  · exact .refl _

theorem isNumberChar_of_number? {cs : List Char} {l : Literal} (read : number? cs = some l) :
    ∀ c ∈ cs, IsNumberChar c := by
  have skips : Skips cs [] := by
    obtain ⟨behind, whole, read⟩ := Option.bind_eq_some_iff.mp read
    have first := (skips_unsigned cs).trans (skips_of_skipWhole? whole)
    split at read
    · next complete =>
      rw [complete] at first
      exact first
    obtain ⟨rest, skipped, read⟩ := Option.bind_eq_some_iff.mp read
    obtain ⟨middle, fraction, exponent⟩ := Option.bind_eq_some_iff.mp skipped
    split at read
    · next complete =>
      rw [complete] at exponent
      exact (first.trans (skips_of_skipFraction? fraction)).trans (skips_of_skipExponent? exponent)
    · cases read
  obtain ⟨part, whole, all⟩ := skips
  rw [whole, List.append_nil]
  exact all

end MockSchema.Json
