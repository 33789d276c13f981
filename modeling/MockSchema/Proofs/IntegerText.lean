import MockSchema.Text.Integer
import MockSchema.Token.Number
import MockSchema.Value.Display

/-!
# Texts of integers

The decimal text of an integer has digits behind an optional minus and no zero in front of other digits.
Every reader of integers therefore takes it whole (`cutNumber_intChars`) and gets the integer back
(`readInt64?_intChars`).
-/

namespace MockSchema

/-! ## Digits -/

theorem isDigit_of_mem_decimal {n : Nat} {c : Char} (member : c ∈ Nat.toDigits 10 n) :
    c.isDigit = true :=
  Nat.isDigit_of_mem_toDigits (by decide) (by decide) member

/-- By induction on the number, which loses its last digit. -/
theorem exists_digitChar_of_mem {base n : Nat} (several : 1 < base) {c : Char}
    (member : c ∈ Nat.toDigits base n) : ∃ d < base, c = Nat.digitChar d := by
  induction n using Nat.strongRecOn with
  | ind n ih =>
    by_cases small : n < base
    · rw [Nat.toDigits_of_lt_base small, List.mem_singleton] at member
      exact ⟨n, small, member⟩
    · have smaller : n / base < n := Nat.div_lt_self (by omega) several
      rw [Nat.toDigits_of_base_le several (by omega), List.mem_append, List.mem_singleton] at member
      rcases member with front | last
      · exact ih (n / base) smaller front
      · exact ⟨n % base, Nat.mod_lt n (by omega), last⟩

/-- Digits that do not begin with a zero. -/
def Significant (cs : List Char) : Prop := ∃ c r, cs = c :: r ∧ c ≠ '0'

theorem Significant.ne_nil {cs : List Char} (h : Significant cs) : cs ≠ [] := by
  obtain ⟨c, r, rfl, -⟩ := h
  exact List.cons_ne_nil c r

theorem Significant.append {cs : List Char} (h : Significant cs) (ds : List Char) :
    Significant (cs ++ ds) := by
  obtain ⟨c, r, rfl, nonzero⟩ := h
  exact ⟨c, r ++ ds, rfl, nonzero⟩

theorem Significant.of_append {cs ds : List Char} (h : Significant (cs ++ ds))
    (none : ¬ Significant ds) : Significant cs := by
  cases cs with
  | nil => exact absurd h none
  | cons c r =>
    obtain ⟨d, r', same, nonzero⟩ := h
    exact ⟨c, r, rfl, (List.cons.inj same).1 ▸ nonzero⟩

theorem not_significant_zeros (n : Nat) : ¬ Significant (List.replicate n '0') := by
  rintro ⟨c, r, zeros, nonzero⟩
  have member : c ∈ List.replicate n '0' := zeros ▸ List.mem_cons_self
  exact nonzero (List.mem_replicate.mp member).2

/-- A decimal begins with a zero only if there is nothing else in it. -/
theorem toDigits_head (n : Nat) :
    n = 0 ∧ Nat.toDigits 10 n = ['0'] ∨ 0 < n ∧ Significant (Nat.toDigits 10 n) := by
  induction n using Nat.strongRecOn with
  | ind n ih =>
    by_cases small : n < 10
    · rw [Nat.toDigits_of_lt_base small]
      by_cases zero : n = 0
      · exact .inl ⟨zero, by rw [zero]; rfl⟩
      · refine .inr ⟨Nat.pos_of_ne_zero zero, _, [], rfl, ?_⟩
        rwa [ne_eq, Nat.digitChar_eq_zero]
    · rw [Nat.toDigits_of_base_le (by decide) (by omega)]
      rcases ih (n / 10) (by omega) with ⟨zero, -⟩ | ⟨-, first⟩
      · omega
      · exact .inr ⟨by omega, first.append [(n % 10).digitChar]⟩

theorem toDigits_unsigned (n : Nat) :
    ∃ c r, Nat.toDigits 10 n = c :: r ∧ c ≠ '-' ∧ c ≠ '+' := by
  obtain ⟨c, r, digits⟩ := List.exists_cons_of_ne_nil (Nat.toDigits_ne_nil (n := n) (b := 10))
  have first : c.isDigit = true := isDigit_of_mem_decimal (digits ▸ List.mem_cons_self)
  refine ⟨c, r, digits, ?_, ?_⟩
  · rintro rfl
    cases first
  · rintro rfl
    cases first

/-- A run of characters of one class in front of something outside it is cut off whole. -/
theorem takeWhile_run {p : Char → Bool} {run rest : List Char} (all : ∀ c ∈ run, p c = true)
    (ends : ∀ c ∈ rest.head?, p c = false) :
    (run ++ rest).takeWhile p = run ∧ (run ++ rest).dropWhile p = rest := by
  rw [List.takeWhile_append_of_pos all, List.dropWhile_append_of_pos all]
  cases rest with
  | nil => simp
  | cons c r =>
    have stops : p c = false := ends c rfl
    simp [stops]

/-! ## Reading -/

namespace Text

/-- Digits stand side by side, from zero to nine. -/
theorem isDigit_bounds {c : Char} (h : c.isDigit = true) : 48 ≤ c.toNat ∧ c.toNat ≤ 57 := by
  simp only [Char.isDigit, Bool.and_eq_true, decide_eq_true_eq, UInt32.le_iff_toNat_le] at h
  exact h

theorem digit?_of_isDigit {c : Char} (h : c.isDigit = true) :
    digit? 10 c = some (c.toNat - '0'.toNat) := by
  have bounds := isDigit_bounds h
  have inside : '0' ≤ c ∧ c ≤ '9' := bounds
  have below : c.toNat - '0'.toNat < 10 := by
    simp only [Char.reduceToNat]
    omega
  rw [digit?, if_pos inside, if_pos below]

/-- Digits are read as the number that they are written for. -/
theorem readNat?_of_digits {cs : List Char} (nonempty : cs ≠ [])
    (all : ∀ c ∈ cs, c.isDigit = true) : readNat? 10 cs = some (Nat.ofDigitChars 10 cs 0) := by
  have fold : ∀ (cs : List Char) (n : Nat), (∀ c ∈ cs, c.isDigit = true) →
      cs.foldlM (fun n c => (digit? 10 c).map fun d => 10 * n + d) n =
        some (Nat.ofDigitChars 10 cs n) := by
    intro cs
    induction cs with
    | nil => exact fun n _ => rfl
    | cons c cs ih =>
      intro n all
      obtain ⟨first, all⟩ := List.forall_mem_cons.mp all
      rw [List.foldlM_cons, digit?_of_isDigit first, Nat.ofDigitChars_cons]
      exact ih _ all
  rw [readNat?, if_neg (by simpa using nonempty)]
  exact fold cs 0 all

theorem digit?_digitChar {base d : Nat} (most : base ≤ 16) (below : d < base) :
    digit? base (Nat.digitChar d) = some d := by
  have hexadecimal : ∀ d < 16, digit? 16 (Nat.digitChar d) = some d := by decide
  have value := hexadecimal d (by omega)
  unfold digit? at value ⊢
  grind

/-- The digits of a number are read as the number, in every base that there are digits for. -/
theorem readNat?_toDigits_base {base : Nat} (several : 1 < base) (most : base ≤ 16) (n : Nat) :
    readNat? base (Nat.toDigits base n) = some n := by
  have fold : (Nat.toDigits base n).foldlM
      (fun n c => (digit? base c).map fun d => base * n + d) 0 = some n := by
    induction n using Nat.strongRecOn with
    | ind n ih =>
      by_cases small : n < base
      · rw [Nat.toDigits_of_lt_base small, List.foldlM_cons, digit?_digitChar most small]
        simp
      · have smaller : n / base < n := Nat.div_lt_self (by omega) several
        have last := digit?_digitChar most (Nat.mod_lt n (by omega))
        rw [Nat.toDigits_of_base_le several (by omega), List.foldlM_append, ih _ smaller]
        simp [last, Nat.div_add_mod]
  rw [readNat?, if_neg (by simp [Nat.toDigits_ne_nil]), fold]

theorem readNat?_toDigits (n : Nat) : readNat? 10 (Nat.toDigits 10 n) = some n :=
  readNat?_toDigits_base (by decide) (by decide) n

theorem readInt?_intChars (i : Int) : readInt? 10 (Value.intChars i) = some i := by
  unfold Value.intChars
  split
  · next negative =>
    rw [readInt?, readNat?_toDigits]
    change some (-(i.natAbs : Int)) = some i
    congr 1
    omega
  · next positive =>
    obtain ⟨c, r, digits, minus, plus⟩ := toDigits_unsigned i.natAbs
    rw [digits, readInt?.eq_3 10 (c :: r) (by simpa using minus) (by simpa using plus), ← digits,
      readNat?_toDigits]
    change some (i.natAbs : Int) = some i
    congr 1
    omega

theorem readInt64?_intChars (i : Int64) : readInt64? (Value.intChars i.toInt) = some i := by
  have least := i.minValue_le_toInt
  have greatest := i.toInt_le
  rw [readInt64?, readInt?_intChars, Option.bind_some, toInt64?, if_pos ⟨least, greatest⟩,
    Int64.ofInt_toInt]

end Text

/-! ## Cutting -/

namespace Token

/-- Something that ends a number without a fraction and without an exponent. -/
def EndsInteger (rest : List Char) : Prop :=
  ∀ c ∈ rest.head?, c.isDigit = false ∧ c ≠ '.' ∧ c ≠ 'e' ∧ c ≠ 'E'

theorem fractionPart_of_endsInteger {rest : List Char} (ends : EndsInteger rest)
    (lexeme : List Char) : fractionPart lexeme rest = ⟨lexeme, rest, .ok .integer⟩ := by
  cases rest with
  | nil => rfl
  | cons c r =>
    obtain ⟨-, point, small, capital⟩ := ends c rfl
    rw [fractionPart.eq_def]
    split
    · next same => exact absurd (List.cons.inj same).1 point
    · rw [exponentPart, if_neg (by simp [small, capital])]

theorem integerPart_toDigits (sign : List Char) (n : Nat) {rest : List Char}
    (ends : EndsInteger rest) :
    integerPart sign (Nat.toDigits 10 n ++ rest) =
      ⟨sign ++ Nat.toDigits 10 n, rest, .ok .integer⟩ := by
  rcases toDigits_head n with ⟨-, zero⟩ | ⟨-, c, r, digits, first⟩
  · rw [zero]
    cases rest with
    | nil => rfl
    | cons d r =>
      have stops : d.isDigit = false := (ends d rfl).1
      rw [List.singleton_append, integerPart, if_neg (by simp [stops]),
        fractionPart_of_endsInteger ends]
  · have all : ∀ d ∈ Nat.toDigits 10 n, d.isDigit = true := fun d => isDigit_of_mem_decimal
    obtain ⟨taken, dropped⟩ := takeWhile_run all fun d member => (ends d member).1
    have cut : integerPart sign (Nat.toDigits 10 n ++ rest) =
        fractionPart (sign ++ Nat.toDigits 10 n) rest := by
      rw [integerPart.eq_def]
      split
      · next same =>
        rw [digits, List.cons_append] at same
        exact absurd (List.cons.inj same).1 first
      · next same =>
        rw [digits, List.cons_append] at same
        exact absurd (List.cons.inj same).1 first
      · rw [Token.digits, Token.afterDigits, taken, dropped, if_neg Nat.toDigits_ne_nil]
    rw [cut, fractionPart_of_endsInteger ends]

/-- The text of an integer is cut off whole, and found to be one. -/
theorem cutNumber_intChars (i : Int) {rest : List Char} (ends : EndsInteger rest) :
    cutNumber (Value.intChars i ++ rest) = ⟨Value.intChars i, rest, .ok .integer⟩ := by
  unfold Value.intChars
  split
  · exact integerPart_toDigits ['-'] i.natAbs ends
  · have unsigned : cutNumber (Nat.toDigits 10 i.natAbs ++ rest) =
        integerPart [] (Nat.toDigits 10 i.natAbs ++ rest) := by
      obtain ⟨c, r, digits, minus, -⟩ := toDigits_unsigned i.natAbs
      rw [digits, List.cons_append, cutNumber.eq_2 _ (by simpa using minus)]
    rw [unsigned]
    exact integerPart_toDigits [] i.natAbs ends

end Token

end MockSchema
