import MockSchema.Proofs.ShortestDecimal

/-!
# Texts of numbers read back

The scientific text of a finite number is a sign and a numeral with a fraction or an exponent, in whichever
notation it stands (`scientific_eq`). A numeral is read as the number nearest to its value (`read?_chars`), and
so the text of a finite number is read as the number (`read?_scientific`).
-/

namespace MockSchema.Binary64

/-! ## Numerals -/

/-- A decimal without a sign that has a fraction or an exponent. No zero stands in front of the integer part. -/
structure Numeral where
  whole : List Char
  fraction : List Char
  exponent : Option Int
  first : whole = ['0'] ∨ Significant whole
  digit : ∀ c ∈ whole ++ fraction, c.isDigit = true
  inexact : fraction ≠ [] ∨ exponent ≠ none

namespace Numeral

def fractionChars (n : Numeral) : List Char :=
  if n.fraction.isEmpty then [] else '.' :: n.fraction

def exponentChars (n : Numeral) : List Char :=
  match n.exponent with
  | none => []
  | some k => 'e' :: (if k < 0 then '-' else '+') :: Nat.toDigits 10 k.natAbs

def chars (n : Numeral) : List Char := n.whole ++ (n.fractionChars ++ n.exponentChars)

def digits (n : Numeral) : List Char := n.whole ++ n.fraction

/-- The power of ten of the last digit. -/
def power (n : Numeral) : Int := n.exponent.getD 0 - n.fraction.length

def value (n : Numeral) : ℚ := ofDigits n.digits * 10 ^ n.power

theorem chars_mk {whole fraction : List Char} (first digit inexact) (some : fraction ≠ []) :
    (⟨whole, fraction, none, first, digit, inexact⟩ : Numeral).chars = whole ++ '.' :: fraction := by
  simp [chars, fractionChars, exponentChars, some]

theorem value_mk {whole fraction : List Char} {exponent : Option Int} (first digit inexact) :
    (⟨whole, fraction, exponent, first, digit, inexact⟩ : Numeral).value =
      ofDigits (whole ++ fraction) * 10 ^ (exponent.getD 0 - fraction.length) := rfl

end Numeral

theorem ofMagnitude_magnitude (x : Binary64) : ofMagnitude x.isNegative x.magnitude = x := by
  have below : x.bits.toNat < 2 * signWeight := x.bits.toNat_lt
  have whole : (if x.isNegative then signWeight else 0) + x.magnitude = x.bits.toNat := by
    unfold isNegative magnitude
    by_cases negative : signWeight ≤ x.bits.toNat
    · rw [decide_eq_true negative, if_pos rfl, Nat.mod_eq_sub_mod negative,
        Nat.mod_eq_of_lt (by omega)]
      omega
    · rw [decide_eq_false negative, if_neg Bool.false_ne_true, Nat.zero_add,
        Nat.mod_eq_of_lt (by omega)]
  rw [ofMagnitude, whole]
  exact congrArg Binary64.mk (UInt64.ofNat_toNat)

section Notation

variable {cs : List Char}

/-- The two parts of a number around a point, with a single zero where there is nothing behind the point. -/
def pointed (parts : List Char × List Char) : List Char :=
  parts.1 ++ '.' :: (if parts.2.isEmpty then ['0'] else parts.2)

theorem isDigit_of_mem_replicate {n : Nat} : ∀ c ∈ List.replicate n '0', c.isDigit = true := by
  intro c member
  rw [(List.mem_replicate.mp member).2]
  rfl

/-- Digits behind the point, with zeros between. -/
theorem exists_numeral_below (nonempty : cs ≠ []) (all : ∀ c ∈ cs, c.isDigit = true) (k : Nat) :
    ∃ n : Numeral, pointed (['0'], List.replicate k '0' ++ cs) = n.chars ∧
      n.value = ofDigits cs * 10 ^ (-(k + cs.length) : Int) := by
  have some : List.replicate k '0' ++ cs ≠ [] := by simp [nonempty]
  refine ⟨⟨['0'], List.replicate k '0' ++ cs, none, .inl rfl, ?_, .inl some⟩, ?_, ?_⟩
  · rw [List.forall_mem_append, List.forall_mem_append]
    exact ⟨by simp, isDigit_of_mem_replicate, all⟩
  · simp [Numeral.chars_mk, some, pointed]
  · have digits : ofDigits (['0'] ++ (List.replicate k '0' ++ cs)) = ofDigits cs := by
      rw [← List.append_assoc, ← List.replicate_one, ← List.replicate_add, ofDigits_zeros_append]
    rw [Numeral.value_mk, digits, Option.getD_none, List.length_append, List.length_replicate]
    congr 2
    omega

/-- Digits on either side of the point. -/
theorem exists_numeral_across {k : Nat} (first : Significant cs)
    (all : ∀ c ∈ cs, c.isDigit = true) (inside : k + 1 < cs.length) :
    ∃ n : Numeral, pointed (cs.take (k + 1), cs.drop (k + 1)) = n.chars ∧
      n.value = ofDigits cs * 10 ^ ((k + 1 : Int) - cs.length) := by
  have some : cs.drop (k + 1) ≠ [] := by simpa using inside
  have first' : Significant (cs.take (k + 1)) := by
    obtain ⟨c, r, rfl, nonzero⟩ := first
    exact ⟨c, r.take k, rfl, nonzero⟩
  refine ⟨⟨cs.take (k + 1), cs.drop (k + 1), none, .inr first', ?_, .inl some⟩, ?_, ?_⟩
  · rwa [List.take_append_drop]
  · simp [Numeral.chars_mk, some, pointed]
  · rw [Numeral.value_mk, List.take_append_drop, Option.getD_none, List.length_drop]
    congr 2
    omega

/-- Digits and zeros in front of the point, with a zero behind it. -/
theorem exists_numeral_above (first : Significant cs)
    (all : ∀ c ∈ cs, c.isDigit = true) (j : Nat) :
    ∃ n : Numeral, pointed (cs ++ List.replicate j '0', []) = n.chars ∧
      n.value = ofDigits cs * 10 ^ (j : Int) := by
  have some : ['0'] ≠ [] := List.cons_ne_nil _ _
  refine ⟨⟨cs ++ List.replicate j '0', ['0'], none, .inr (first.append _), ?_, .inl some⟩, ?_, ?_⟩
  · rw [List.forall_mem_append, List.forall_mem_append]
    exact ⟨⟨all, isDigit_of_mem_replicate⟩, by simp⟩
  · simp [Numeral.chars_mk, pointed]
  · have digits : ofDigits (cs ++ List.replicate j '0' ++ ['0']) = ofDigits cs * 10 ^ (j + 1) := by
      rw [List.append_assoc, ← List.replicate_succ', ofDigits_append_zeros]
    rw [Numeral.value_mk, digits, Option.getD_none, Nat.cast_mul, mul_assoc, Nat.cast_pow,
      ← zpow_natCast, Nat.cast_ofNat, ← zpow_add₀ (by norm_num)]
    congr 2
    simp

/-- In positional notation digits are a numeral with a fraction, which may be a single zero. -/
theorem exists_numeral_positional (order : Int) (first : Significant cs)
    (all : ∀ c ∈ cs, c.isDigit = true) :
    ∃ n : Numeral, pointed (positional cs order) = n.chars ∧
      n.value = ofDigits cs * 10 ^ (order + 1 - cs.length) := by
  unfold positional
  split
  · next below =>
    obtain ⟨k, zeros⟩ : ∃ k : Nat, (-order - 1).toNat = k := ⟨_, rfl⟩
    rw [zeros, show order + 1 - cs.length = -(k + cs.length : Int) by omega]
    exact exists_numeral_below first.ne_nil all k
  · next above =>
    obtain ⟨k, rfl⟩ := Int.eq_ofNat_of_zero_le (not_lt.mp above)
    dsimp only [Int.toNat_natCast]
    by_cases inside : k + 1 < cs.length
    · rw [Nat.sub_eq_zero_of_le inside.le, List.replicate_zero, List.append_nil]
      exact exists_numeral_across first all inside
    · obtain ⟨j, zeros⟩ := Nat.exists_eq_add_of_le (not_lt.mp inside)
      rw [List.take_of_length_le (by omega), List.drop_of_length_le (by omega),
        show k + 1 - cs.length = j by omega, show (k : Int) + 1 - cs.length = j by omega]
      exact exists_numeral_above first all j

/-- In scientific notation digits are a numeral with an exponent, and with a point if there are several. -/
theorem exists_numeral_scientific (order : Int) (first : Significant cs)
    (all : ∀ c ∈ cs, c.isDigit = true) :
    ∃ n : Numeral, cs.take 1 ++ (if cs.length ≤ 1 then [] else '.' :: cs.drop 1) ++
        (if order < 0 then ['e', '-'] else ['e', '+']) ++ Nat.toDigits 10 order.natAbs = n.chars ∧
      n.value = ofDigits cs * 10 ^ (order + 1 - cs.length) := by
  obtain ⟨c, r, rfl, nonzero⟩ := first
  refine ⟨⟨[c], r, some order, .inr ⟨c, [], rfl, nonzero⟩, all, .inr (Option.some_ne_none _)⟩, ?_, ?_⟩
  · have mark : (if order < 0 then ['e', '-'] else ['e', '+']) =
        'e' :: [if order < 0 then '-' else '+'] := by
      split <;> rfl
    simp [Numeral.chars, Numeral.fractionChars, Numeral.exponentChars, mark]
  · rw [Numeral.value_mk, Option.getD_some, List.length_cons, List.singleton_append]
    congr 2
    omega

end Notation

/-- The text of a finite number is its sign and a numeral that is read as the number. -/
theorem scientific_eq {x : Binary64} (finite : x.isFinite = true) :
    ∃ n : Numeral, x.scientific = x.signChars ++ n.chars ∧
      ofDecimal x.isNegative (ofDigits n.digits) n.power = x := by
  by_cases zero : x.magnitude = 0
  · refine ⟨⟨['0'], ['0'], none, .inl rfl, by simp, .inl (List.cons_ne_nil _ _)⟩, ?_, ?_⟩
    · rw [scientific, scientificWith, if_pos zero]
      rfl
    · calc ofDecimal x.isNegative 0 (-1) = ofMagnitude x.isNegative 0 := if_pos rfl
        _ = ofMagnitude x.isNegative x.magnitude := by rw [zero]
        _ = x := x.ofMagnitude_magnitude
  · obtain ⟨first, all, near⟩ := shortestDigits_spec (Nat.pos_of_ne_zero zero)
    have numeral : ∃ n : Numeral, x.scientific = x.signChars ++ n.chars ∧
        n.value = ofDigits x.shortestDigits.1 *
          10 ^ (x.shortestDigits.2 + 1 - x.shortestDigits.1.length) := by
      rw [scientific, scientificWith, if_neg zero]
      dsimp only
      split
      · obtain ⟨n, text, value⟩ := exists_numeral_positional x.shortestDigits.2 first all
        exact ⟨n, by rw [← text, List.append_assoc, pointed], value⟩
      · obtain ⟨n, text, value⟩ := exists_numeral_scientific x.shortestDigits.2 first all
        exact ⟨n, by simp [← text], value⟩
    obtain ⟨n, text, value⟩ := numeral
    rw [← value] at near
    exact ⟨n, text, (ofDecimal_eq_of_near finite (Nat.pos_of_ne_zero zero) _ near).trans
      x.ofMagnitude_magnitude⟩

/-! ## Reading -/

namespace Numeral

variable (n : Numeral)

theorem whole_digits : ∀ c ∈ n.whole, c.isDigit = true := (List.forall_mem_append.mp n.digit).1

theorem fraction_digits : ∀ c ∈ n.fraction, c.isDigit = true := (List.forall_mem_append.mp n.digit).2

theorem whole_ne_nil : n.whole ≠ [] := by
  rcases n.first with zero | first
  · simp [zero]
  · exact first.ne_nil

/-- A numeral begins with a digit. -/
theorem chars_eq_cons : ∃ c r, n.chars = c :: r ∧ c.isDigit = true := by
  obtain ⟨c, r, whole⟩ := List.exists_cons_of_ne_nil n.whole_ne_nil
  exact ⟨c, _, by rw [chars, whole, List.cons_append], n.whole_digits c (by simp [whole])⟩

/-- No digit stands in front of an exponent. -/
theorem exponentChars_head : ∀ c ∈ n.exponentChars.head?, c.isDigit = false ∧ c ≠ '.' := by
  unfold exponentChars
  cases n.exponent <;> simp

/-- No digit stands behind the digits of the integer part. -/
theorem behind_head : ∀ c ∈ (n.fractionChars ++ n.exponentChars).head?, c.isDigit = false := by
  unfold fractionChars
  split
  · exact fun c head => (n.exponentChars_head c head).1
  · simp

/-- Something stands there, since the numeral is no integer. -/
theorem behind_ne_nil : n.fractionChars ++ n.exponentChars ≠ [] := by
  rcases n.inexact with fraction | exponent
  · simp [fractionChars, fraction]
  · obtain ⟨k, some⟩ := Option.ne_none_iff_exists'.mp exponent
    simp [exponentChars, some]

end Numeral

theorem readExponent_toDigits (negative : Bool) (n : Nat) :
    readExponent ('e' :: (if negative then '-' else '+') :: Nat.toDigits 10 n) =
      some (if negative then -(n : Int) else n) := by
  have digits : (Nat.toDigits 10 n).all Char.isDigit = true := by
    rw [List.all_eq_true]
    exact fun c => isDigit_of_mem_decimal
  cases negative with
  | false => simp [readExponent, Nat.toDigits_ne_nil, digits, ofDigits_toDigits]
  | true => simp [readExponent, Nat.toDigits_ne_nil, digits, ofDigits_toDigits]

theorem readExponent_exponentChars (n : Numeral) :
    readExponent n.exponentChars = some (n.exponent.getD 0) := by
  unfold Numeral.exponentChars
  cases n.exponent with
  | none => rfl
  | some k =>
    have read := readExponent_toDigits (decide (k < 0)) k.natAbs
    simp only [decide_eq_true_eq] at read
    rw [Option.getD_some]
    refine read.trans (congrArg some ?_)
    split <;> omega

theorem readUnsigned_chars (negative : Bool) (n : Numeral) :
    readUnsigned negative n.chars = some (ofDecimal negative (ofDigits n.digits) n.power) := by
  obtain ⟨taken, dropped⟩ := takeWhile_run n.whole_digits n.behind_head
  have exponent := readExponent_exponentChars n
  unfold readUnsigned
  dsimp only
  rw [Numeral.chars, taken, dropped]
  by_cases none : n.fraction = []
  · have absent : n.fractionChars ++ n.exponentChars = n.exponentChars := by
      simp [Numeral.fractionChars, none]
    rw [absent]
    split
    · next r point =>
      have head : '.' ∈ n.exponentChars.head? := by rw [point]; rfl
      exact absurd rfl (n.exponentChars_head '.' head).2
    · simp [n.whole_ne_nil, exponent, Numeral.digits, Numeral.power, none]
  · have point : n.fractionChars ++ n.exponentChars = '.' :: (n.fraction ++ n.exponentChars) := by
      simp [Numeral.fractionChars, none]
    obtain ⟨taken, dropped⟩ :=
      takeWhile_run n.fraction_digits fun c head => (n.exponentChars_head c head).1
    rw [point]
    simp [n.whole_ne_nil, taken, dropped, exponent, Numeral.digits, Numeral.power]

theorem toLower_of_isDigit {c : Char} (digit : c.isDigit = true) : c.toLower = c := by
  have top : c.val ≤ '9'.val := by
    simp only [Char.isDigit, Bool.and_eq_true, decide_eq_true_eq] at digit
    exact digit.2
  refine dif_neg fun capital => ?_
  exact absurd (UInt32.le_trans capital.1 top) (by decide)

theorem readSign_chars (negative : Bool) (n : Numeral) :
    readSign ((if negative then ['-'] else []) ++ n.chars) = (negative, n.chars) := by
  obtain ⟨c, r, chars, digit⟩ := n.chars_eq_cons
  cases negative with
  | true => rfl
  | false =>
    rw [if_neg Bool.false_ne_true, List.nil_append, chars, readSign]
    · rintro _ same
      cases same
      cases digit
    · rintro _ same
      cases same
      cases digit

theorem read?_chars (negative : Bool) (n : Numeral) :
    read? ((if negative then ['-'] else []) ++ n.chars) =
      some (ofDecimal negative (ofDigits n.digits) n.power) := by
  obtain ⟨c, r, chars, digit⟩ := n.chars_eq_cons
  have lower : n.chars.map Char.toLower = c :: r.map Char.toLower := by
    rw [chars, List.map_cons, toLower_of_isDigit digit]
  unfold read?
  rw [readSign_chars]
  dsimp only
  rw [lower]
  -- no name of a number begins with a digit
  split
  · next name =>
    cases (List.cons.inj name).1
    cases digit
  · next name =>
    cases (List.cons.inj name).1
    cases digit
  · next name =>
    cases (List.cons.inj name).1
    cases digit
  · exact readUnsigned_chars negative n

/-- The text of a finite number is read as the number. -/
theorem read?_scientific {x : Binary64} (finite : x.isFinite = true) :
    read? x.scientific = some x := by
  obtain ⟨n, text, number⟩ := scientific_eq finite
  rw [text, signChars, read?_chars, number]

end MockSchema.Binary64
