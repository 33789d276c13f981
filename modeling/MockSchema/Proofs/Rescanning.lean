import Mathlib.Tactic.ByContra
import Mathlib.Tactic.SplitIfs
import MockSchema.Proofs.IntegerText
import MockSchema.Proofs.Scanning

/-!
# Pieces that are scanned again

A number, a word or a structural character is scanned whole wherever nothing behind it could go on with it, and a
quoted text wherever it stands. So a piece that was scanned as a token is scanned as the same one in front of
white space or at the end (`Takes.again`), and in a text that was put together the token comes next
(`tokenizeFrom_next`).
-/

namespace MockSchema

namespace Token

/-! ## In front of white space -/

/-- White space, or nothing more. -/
def Separated (rest : List Char) : Prop := ∀ c ∈ rest.head?, isSpace c = true

theorem isSpace_iff_mem (c : Char) : isSpace c = true ↔ c ∈ [' ', '\t', '\r', '\n'] := by
  simp [isSpace, or_assoc]

/-- A class that white space does not belong to ends in front of it. -/
theorem Separated.head {rest : List Char} (h : Separated rest) {p : Char → Bool}
    (apart : [' ', '\t', '\r', '\n'].all (!p ·) = true) : ∀ c ∈ rest.head?, p c = false := by
  intro c member
  have space := (isSpace_iff_mem c).mp (h c member)
  simpa using List.all_eq_true.mp apart c space

theorem Separated.endsInteger {rest : List Char} (h : Separated rest) : EndsInteger rest := by
  intro c member
  have digit : c.isDigit = false := h.head rfl c member
  have others : (c = '.' || c = 'e' || c = 'E') = false :=
    h.head (p := fun c => c = '.' || c = 'e' || c = 'E') rfl c member
  simpa [digit, and_assoc] using others

/-- A character of a class without white space is no white space. -/
theorem isSpace_eq_false {p : Char → Bool} (apart : [' ', '\t', '\r', '\n'].all (!p ·) = true)
    {c : Char} (member : p c = true) : isSpace c = false := by
  by_contra space
  rw [Bool.not_eq_false, isSpace_iff_mem] at space
  have outside := List.all_eq_true.mp apart c space
  rw [member] at outside
  cases outside

/-! ## Quoted texts -/

theorem untilDelimiter_append {body : List Char} {delimiter : Char} (free : delimiter ∉ body)
    (rest : List Char) : untilDelimiter delimiter (body ++ delimiter :: rest) = some (body, rest) := by
  induction body with
  | nil => simp [untilDelimiter]
  | cons c body ih =>
    rw [List.mem_cons, not_or] at free
    rw [List.cons_append, untilDelimiter, if_neg (Ne.symm free.1), ih free.2, Option.map_some]

theorem untilDelimiter_again {delimiter : Char} {body rest : List Char}
    (found : untilDelimiter delimiter (body ++ delimiter :: rest) = some (body, rest))
    (rest' : List Char) :
    untilDelimiter delimiter (body ++ delimiter :: rest') = some (body, rest') := by
  induction body with
  | nil => simp [untilDelimiter]
  | cons c body ih =>
    rw [List.cons_append, untilDelimiter] at found ⊢
    split at found
    · simp at found
    · next other =>
      rw [if_neg other]
      simp only [Option.map_eq_some_iff, Prod.mk.injEq, List.cons.injEq, true_and] at found
      obtain ⟨⟨_, _⟩, later, rfl, rfl⟩ := found
      rw [ih later, Option.map_some]

theorem untilSlash_again {previous : Char} {body rest : List Char}
    (found : untilSlash previous (body ++ '/' :: rest) = some (body, rest)) (rest' : List Char) :
    untilSlash previous (body ++ '/' :: rest') = some (body, rest') := by
  induction body generalizing previous with
  | nil =>
    rw [List.nil_append, untilSlash] at found ⊢
    split at found
    · next slash => rw [if_pos slash]
    · simp at found
  | cons c body ih =>
    rw [List.cons_append, untilSlash] at found ⊢
    split at found
    · simp at found
    · next other =>
      rw [if_neg other]
      simp only [Option.map_eq_some_iff, Prod.mk.injEq, List.cons.injEq, true_and] at found
      obtain ⟨⟨_, _⟩, later, rfl, rfl⟩ := found
      rw [ih later, Option.map_some]

/-! ## Numbers that are cut again -/

section Number

variable {lexeme rest piece left : List Char} {kind kind' : TokenKind}

/-- A part of a number that is cut off behind what was read before is cut off again in front of anything that
ends numbers. -/
def CutAgain (cut : List Char → NumberPiece) (lexeme part : List Char) (kind : TokenKind) : Prop :=
  ∀ rest, EndsInteger rest → cut (part ++ rest) = ⟨lexeme ++ part, rest, .ok kind⟩

theorem cutAgain_nil {cut : List Char → NumberPiece}
    (skips : ∀ rest, EndsInteger rest → cut rest = ⟨lexeme, rest, .ok kind⟩) :
    CutAgain cut lexeme [] kind := by
  intro rest ends
  rw [List.nil_append, List.append_nil]
  exact skips rest ends

theorem isDigit_of_mem_digits {cs : List Char} : ∀ c ∈ digits cs, c.isDigit = true :=
  List.all_eq_true.mp List.all_takeWhile

/-- Digits that were cut off are cut off again in front of anything that begins with no digit. -/
theorem digits_again (cs : List Char) {rest : List Char}
    (ends : ∀ c ∈ rest.head?, c.isDigit = false) :
    digits (digits cs ++ rest) = digits cs ∧ afterDigits (digits cs ++ rest) = rest :=
  takeWhile_run isDigit_of_mem_digits ends

theorem exponentSign_again (r : List Char) (some : digits (exponentSign r).2 ≠ [])
    (rest : List Char) :
    exponentSign ((exponentSign r).1 ++ (digits (exponentSign r).2 ++ rest)) =
      ((exponentSign r).1, digits (exponentSign r).2 ++ rest) := by
  by_cases signed : (exponentSign r).1 = []
  · obtain ⟨c, ds, cut⟩ := List.exists_cons_of_ne_nil some
    have digit : c.isDigit = true := isDigit_of_mem_digits c (cut ▸ List.mem_cons_self)
    rw [signed, cut, List.nil_append, List.cons_append, exponentSign]
    · rintro r' same
      cases same
      cases digit
    · rintro r' same
      cases same
      cases digit
  · unfold exponentSign at signed some ⊢
    revert signed some
    split <;> simp

theorem exponentPart_of_endsInteger (ends : EndsInteger rest) :
    exponentPart lexeme rest kind = ⟨lexeme, rest, .ok kind⟩ := by
  cases rest with
  | nil => rfl
  | cons c r =>
    obtain ⟨-, -, small, capital⟩ := ends c rfl
    simp [exponentPart, small, capital]

/-- An exponent, or none. -/
theorem exponentPart_again (cut : exponentPart lexeme rest kind = ⟨piece, left, .ok kind'⟩) :
    ∃ part, piece = lexeme ++ part ∧ (∀ c ∈ part.head?, c = 'e' ∨ c = 'E') ∧
      CutAgain (exponentPart lexeme · kind) lexeme part kind' := by
  unfold exponentPart at cut
  split at cut
  · cases cut
    exact ⟨[], by simp, by simp, cutAgain_nil fun _ => exponentPart_of_endsInteger⟩
  next c r =>
  split at cut
  · next mark =>
    simp only [] at cut
    split at cut
    · cases cut
    next some =>
    cases cut
    refine ⟨c :: ((exponentSign r).1 ++ digits (exponentSign r).2), by simp, by simpa using mark, ?_⟩
    intro behind ends
    have sign := exponentSign_again r some behind
    obtain ⟨taken, dropped⟩ := digits_again (exponentSign r).2 fun d head => (ends d head).1
    simp [exponentPart, mark, sign, taken, dropped, some]
  · cases cut
    exact ⟨[], by simp, by simp, cutAgain_nil fun _ => exponentPart_of_endsInteger⟩

/-- Behind an exponent or nothing, what ends a number is neither a digit nor a point. -/
theorem head_exponent {part : List Char} (mark : ∀ c ∈ part.head?, c = 'e' ∨ c = 'E')
    (ends : EndsInteger rest) : ∀ c ∈ (part ++ rest).head?, c.isDigit = false ∧ c ≠ '.' := by
  intro c head
  cases part with
  | nil => exact ⟨(ends c head).1, (ends c head).2.1⟩
  | cons d part =>
    cases head
    rcases mark c rfl with rfl | rfl <;> decide

/-- A fraction, an exponent, or both, or neither. -/
theorem fractionPart_again (cut : fractionPart lexeme rest = ⟨piece, left, .ok kind⟩) :
    ∃ part, piece = lexeme ++ part ∧ (∀ c ∈ part.head?, c.isDigit = false) ∧
      CutAgain (fractionPart lexeme) lexeme part kind := by
  have point : ('.' : Char).isDigit = false := rfl
  unfold fractionPart at cut
  split at cut
  · next r =>
    split at cut
    · cases cut
    next some =>
    obtain ⟨part, rfl, mark, again⟩ := exponentPart_again cut
    refine ⟨'.' :: (digits r ++ part), by simp, by simp [point], ?_⟩
    intro behind ends
    obtain ⟨taken, dropped⟩ := digits_again r fun c head => (head_exponent mark ends c head).1
    have exponent := again behind ends
    simp [fractionPart, taken, dropped, some, exponent]
  · obtain ⟨part, rfl, mark, again⟩ := exponentPart_again cut
    refine ⟨part, rfl, fun c head => ?_, ?_⟩
    · rcases mark c head with rfl | rfl <;> rfl
    · intro behind ends
      have first := head_exponent mark ends
      rw [fractionPart.eq_2 _ _ fun r same => (first '.' (by simp [same])).2 rfl]
      exact again behind ends

theorem head_fraction {part : List Char} (first : ∀ c ∈ part.head?, c.isDigit = false)
    (ends : EndsInteger rest) : ∀ c ∈ (part ++ rest).head?, c.isDigit = false := by
  intro c head
  cases part with
  | nil => exact (ends c head).1
  | cons d part => exact first c head

/-- A zero in front of no digit is an integer part. -/
theorem integerPart_zero (sign : List Char) (ends : ∀ c ∈ rest.head?, c.isDigit = false) :
    integerPart sign ('0' :: rest) = fractionPart (sign ++ ['0']) rest := by
  cases rest with
  | nil => rfl
  | cons d r =>
    have stops : d.isDigit = false := ends d rfl
    simp [integerPart, stops]

/-- Digits behind a digit other than zero are an integer part. -/
theorem integerPart_digits (sign : List Char) {cs : List Char} (first : cs.head? ≠ some '0') :
    integerPart sign cs =
      if digits cs = [] then ⟨sign, cs, .error .digit⟩
      else fractionPart (sign ++ digits cs) (afterDigits cs) := by
  unfold integerPart
  split
  · simp at first
  · simp at first
  · rfl

theorem integerPart_again {sign : List Char}
    (cut : integerPart sign rest = ⟨piece, left, .ok kind⟩) :
    ∃ c part, piece = sign ++ c :: part ∧ c.isDigit = true ∧
      CutAgain (integerPart sign) sign (c :: part) kind := by
  by_cases zero : rest.head? = some '0'
  · obtain ⟨r, rfl⟩ := List.head?_eq_some_iff.mp zero
    have stops : ∀ c ∈ r.head?, c.isDigit = false := by
      intro c head
      obtain ⟨r', rfl⟩ := List.head?_eq_some_iff.mp head
      rw [integerPart] at cut
      by_contra digit
      rw [Bool.not_eq_false] at digit
      simp [digit] at cut
    rw [integerPart_zero sign stops] at cut
    obtain ⟨part, rfl, first, again⟩ := fractionPart_again cut
    refine ⟨'0', part, by simp, rfl, ?_⟩
    intro behind ends
    have fraction := again behind ends
    rw [List.cons_append, integerPart_zero sign (head_fraction first ends), fraction]
    simp
  · rw [integerPart_digits sign zero] at cut
    split at cut
    · cases cut
    next some =>
    obtain ⟨c, ds, digits⟩ := List.exists_cons_of_ne_nil some
    obtain ⟨part, rfl, first, again⟩ := fractionPart_again cut
    have digit : c.isDigit = true := isDigit_of_mem_digits c (digits ▸ List.mem_cons_self)
    have nonzero : c ≠ '0' := by
      rintro rfl
      have whole := digits_append_afterDigits rest
      rw [digits] at whole
      apply zero
      rw [← whole]
      rfl
    refine ⟨c, ds ++ part, by simp [digits], digit, ?_⟩
    intro behind ends
    have text : c :: (ds ++ part) ++ behind = Token.digits rest ++ (part ++ behind) := by
      simp [digits]
    obtain ⟨taken, dropped⟩ := digits_again rest (head_fraction first ends)
    have fraction := again behind ends
    rw [text, integerPart_digits sign (by simp [digits, nonzero]), taken, if_neg some, dropped,
      fraction]
    simp [digits]

/-- A number is cut off again in front of anything that ends numbers. -/
theorem cutNumber_again {cs : List Char} (cut : cutNumber cs = ⟨piece, left, .ok kind⟩)
    (ends : EndsInteger rest) : cutNumber (piece ++ rest) = ⟨piece, rest, .ok kind⟩ := by
  unfold cutNumber at cut
  split at cut
  · obtain ⟨c, part, rfl, digit, again⟩ := integerPart_again cut
    exact again rest ends
  · obtain ⟨c, part, rfl, digit, again⟩ := integerPart_again cut
    have number := again rest ends
    rw [List.nil_append] at number ⊢
    rw [List.cons_append, cutNumber]
    · exact number
    · rintro r same
      cases same
      cases digit

end Number

/-! ## Tokens that are cut again -/

theorem isAlpha_of_isDigit {c : Char} (digit : c.isDigit = true) : c.isAlpha = false := by
  change (decide ('0'.val ≤ c.val) && decide (c.val ≤ '9'.val)) = true at digit
  change (decide ('A'.val ≤ c.val ∧ c.val ≤ 'Z'.val) ||
    decide ('a'.val ≤ c.val) && decide (c.val ≤ 'z'.val)) = false
  simp only [Bool.and_eq_true, Bool.or_eq_false_iff, Bool.and_eq_false_iff, decide_eq_true_eq,
    decide_eq_false_iff_not, UInt32.le_iff_toNat_le] at digit ⊢
  have upper : '9'.val.toNat < 'A'.val.toNat := by decide
  have lower : '9'.val.toNat < 'a'.val.toNat := by decide
  omega

/-- A word is scanned whole. -/
theorem scan_word {c : Char} {r rest : List Char} (first : c.isAlpha = true)
    (others : ∀ d ∈ r, isWordChar d = true) (ends : ∀ d ∈ rest.head?, isWordChar d = false)
    (offset : Nat) :
    scan ⟨c :: r ++ rest, offset⟩ =
      Cursor.whole ⟨c :: r ++ rest, offset⟩ ((TokenKind.keyword? (c :: r)).getD .ident) (c :: r)
        rest := by
  have word : isWordChar c = true := by simp [isWordChar, Char.isAlphanum, first]
  obtain ⟨taken, dropped⟩ := takeWhile_run (List.forall_mem_cons.mpr ⟨word, others⟩) ends
  have space : isSpace c = false := isSpace_eq_false (p := Char.isAlpha) rfl first
  rw [List.cons_append] at taken dropped ⊢
  simp [scan, space, first, taken, dropped]

/-- A number is scanned as it is cut off. -/
theorem scan_number {c : Char} {r rest : List Char} {kind : TokenKind}
    (first : (c.isDigit || c = '-') = true)
    (cut : cutNumber (c :: r ++ rest) = ⟨c :: r, rest, .ok kind⟩) (offset : Nat) :
    scan ⟨c :: r ++ rest, offset⟩ = Cursor.whole ⟨c :: r ++ rest, offset⟩ kind (c :: r) rest := by
  have space : isSpace c = false := isSpace_eq_false (p := fun c => c.isDigit || c = '-') rfl first
  have alpha : c.isAlpha = false := by
    simp only [Bool.or_eq_true, decide_eq_true_eq] at first
    rcases first with digit | rfl
    · exact isAlpha_of_isDigit digit
    · rfl
  rw [List.cons_append] at cut ⊢
  simp only [scan, space, alpha, first, Bool.false_eq_true, if_false, if_true, Cursor.number, cut]
  rfl

/-- A structural character is a token of its own. -/
theorem scan_punctuation {c : Char} {kind : TokenKind} (known : TokenKind.punctuation? c = some kind)
    (rest : List Char) (offset : Nat) :
    scan ⟨c :: rest, offset⟩ = Cursor.whole ⟨c :: rest, offset⟩ kind [c] rest := by
  unfold TokenKind.punctuation? at known
  split_ifs at known <;> subst_vars <;> cases known <;> rfl

/-- Whatever was scanned as a token is scanned as the same one wherever its piece stands in front of white
space. -/
theorem Takes.again {offset : Nat} {piece rest : List Char} {t : Token}
    (h : Takes offset piece rest (.ok t)) (solid : t.kind ≠ .whitespace) {rest' : List Char}
    (separated : Separated rest') (offset' : Nat) :
    scan ⟨piece ++ rest', offset'⟩ =
      (.ok ⟨t.kind, t.literal, offset'⟩, ⟨rest', offset' + Text.width piece⟩) := by
  cases h with
  | space nonempty blank => exact absurd rfl solid
  | word first others => exact scan_word first others (separated.head rfl) offset'
  | number first cut =>
    exact scan_number first (cutNumber_again cut separated.endsInteger) offset'
  | mark known => exact scan_punctuation known rest' offset'
  | @string body _ closed =>
    have again := untilDelimiter_again closed rest'
    have text : '"' :: body ++ ['"'] ++ rest' = '"' :: (body ++ '"' :: rest') := by simp
    have scanned : scan ⟨'"' :: (body ++ '"' :: rest'), offset'⟩ =
        Cursor.delimited ⟨'"' :: (body ++ '"' :: rest'), offset'⟩ .string '"' (body ++ '"' :: rest')
          (untilDelimiter '"' (body ++ '"' :: rest')) (.unclosedString offset') := rfl
    rw [text, scanned, again]
    rfl
  | @template body _ closed =>
    have again := untilDelimiter_again closed rest'
    have text : '\x60' :: body ++ ['\x60'] ++ rest' = '\x60' :: (body ++ '\x60' :: rest') := by simp
    have scanned : scan ⟨'\x60' :: (body ++ '\x60' :: rest'), offset'⟩ =
        Cursor.delimited ⟨'\x60' :: (body ++ '\x60' :: rest'), offset'⟩ .template '\x60'
          (body ++ '\x60' :: rest') (untilDelimiter '\x60' (body ++ '\x60' :: rest'))
          (.unclosedString offset') := rfl
    rw [text, scanned, again]
    rfl
  | @pattern body _ closed =>
    have again := untilSlash_again closed rest'
    have text : '/' :: body ++ ['/'] ++ rest' = '/' :: (body ++ '/' :: rest') := by simp
    have scanned : scan ⟨'/' :: (body ++ '/' :: rest'), offset'⟩ =
        Cursor.delimited ⟨'/' :: (body ++ '/' :: rest'), offset'⟩ .regex '/' (body ++ '/' :: rest')
          (untilSlash '/' (body ++ '/' :: rest')) (.unclosedPattern offset') := rfl
    rw [text, scanned, again]
    rfl

/-- A piece that was scanned as a token is cut into that token alone where it is the whole text. -/
theorem Takes.alone {offset : Nat} {piece rest : List Char} {t : Token}
    (h : Takes offset piece rest (.ok t)) (solid : t.kind ≠ .whitespace) :
    tokenizeFrom ⟨piece, 0⟩ =
      .ok [⟨t.kind, t.literal, 0⟩, ⟨.eof, "", Text.width piece⟩] := by
  have separated : Separated [] := by simp [Separated]
  have scanned := h.again solid separated 0
  rw [List.append_nil, Nat.zero_add] at scanned
  have last : tokenizeFrom ⟨[], Text.width piece⟩ = .ok [⟨.eof, "", Text.width piece⟩] := by
    rw [tokenizeFrom, dif_pos rfl]
  rw [tokenizeFrom, dif_neg h.ne_nil]
  simp only [scanned, last, if_neg solid]

/-! ## Cutting a text that was put together -/

/-- White space in front of something else is skipped. -/
theorem tokenizeFrom_blank {space cs : List Char} (blank : ∀ c ∈ space, isSpace c = true)
    (begins : ∀ c ∈ cs.head?, isSpace c = false) (offset : Nat) :
    ∃ start, tokenizeFrom ⟨space ++ cs, offset⟩ = tokenizeFrom ⟨cs, start⟩ := by
  cases space with
  | nil => exact ⟨offset, rfl⟩
  | cons c space =>
    have first : isSpace c = true := blank c List.mem_cons_self
    obtain ⟨taken, dropped⟩ := takeWhile_run blank begins
    rw [List.cons_append] at taken dropped ⊢
    rw [tokenizeFrom, dif_neg (List.cons_ne_nil c _)]
    simp only [scan, first, if_true, taken, dropped, Cursor.whole, Cursor.skip]
    refine ⟨offset + Text.width (c :: space), ?_⟩
    split
    · next failed => exact failed.symm
    · next read => exact read.symm

/-- What is scanned whole as a token is the next token behind white space. -/
theorem tokenizeFrom_next {P : Token → Prop}
    (solid : ∀ {t}, P t → t.kind ≠ .whitespace ∧ t.kind ≠ .eof) {space cs rest : List Char}
    (blank : ∀ c ∈ space, isSpace c = true)
    (scanned : ∀ offset, ∃ t behind, scan ⟨cs, offset⟩ = (.ok t, ⟨rest, behind⟩) ∧ P t)
    (offset : Nat) :
    ∃ t behind, P t ∧ ∀ {ts}, tokenizeFrom ⟨rest, behind⟩ = .ok ts →
      tokenizeFrom ⟨space ++ cs, offset⟩ = .ok (t :: ts) := by
  have begins : ∀ c ∈ cs.head?, isSpace c = false := by
    intro c head
    obtain ⟨r, rfl⟩ := List.head?_eq_some_iff.mp head
    obtain ⟨t, behind, scan, stands⟩ := scanned 0
    by_contra space
    rw [Bool.not_eq_false] at space
    simp only [Token.scan, space, if_true, Cursor.whole, Prod.mk.injEq, Except.ok.injEq] at scan
    exact (solid stands).1 (by rw [← scan.1])
  obtain ⟨start, skipped⟩ := tokenizeFrom_blank blank begins offset
  obtain ⟨t, behind, scan, stands⟩ := scanned start
  -- the scanner gives a token for the end of a text too, but that one is not asked for
  have nonempty : cs ≠ [] := by
    rintro rfl
    simp only [Token.scan, Prod.mk.injEq, Except.ok.injEq] at scan
    exact (solid stands).2 (by rw [← scan.1])
  refine ⟨t, behind, stands, fun read => ?_⟩
  rw [skipped, tokenizeFrom, dif_neg nonempty]
  simp only [scan, read, if_neg (solid stands).1]

end Token

end MockSchema
