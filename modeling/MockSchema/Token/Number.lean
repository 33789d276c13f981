import MockSchema.Token.Basic

/-!
# Numbers in a schema text

The longest piece that can begin a number is cut off: a sign, an integer without leading zeros, an
optional fraction and an optional exponent. The piece is a number or it names what is missing.
-/

namespace MockSchema.Token

/-- A piece cut off the front of a text, what follows it, and whether it is a number. -/
structure NumberPiece where
  lexeme : List Char
  rest : List Char
  verdict : Except NumberFault TokenKind

def digits (cs : List Char) : List Char := cs.takeWhile Char.isDigit

def afterDigits (cs : List Char) : List Char := cs.dropWhile Char.isDigit

/-- An optional sign of an exponent. -/
def exponentSign : List Char → List Char × List Char
  | '+' :: r => (['+'], r)
  | '-' :: r => (['-'], r)
  | r => ([], r)

/-- Goes on after the integer part and the fraction. -/
def exponentPart (lexeme rest : List Char) (kind : TokenKind) : NumberPiece :=
  match rest with
  | [] => ⟨lexeme, [], .ok kind⟩
  | c :: r =>
    if c = 'e' ∨ c = 'E' then
      let (sign, r') := exponentSign r
      let lexeme' := lexeme ++ c :: sign ++ digits r'
      if digits r' = [] then ⟨lexeme', r', .error .exponentDigit⟩
      else ⟨lexeme', afterDigits r', .ok .float⟩
    else ⟨lexeme, c :: r, .ok kind⟩

/-- Goes on after the integer part. -/
def fractionPart (lexeme rest : List Char) : NumberPiece :=
  match rest with
  | '.' :: r =>
    if digits r = [] then ⟨lexeme ++ ['.'], r, .error .fractionDigit⟩
    else exponentPart (lexeme ++ '.' :: digits r) (afterDigits r) .float
  | r => exponentPart lexeme r .integer

/-- Goes on after the sign. A digit after a lone zero is taken into the faulty piece. -/
def integerPart (sign rest : List Char) : NumberPiece :=
  match rest with
  | '0' :: d :: r =>
    if d.isDigit then ⟨sign ++ ['0', d], r, .error .leadingZero⟩
    else fractionPart (sign ++ ['0']) (d :: r)
  | ['0'] => fractionPart (sign ++ ['0']) []
  | r =>
    if digits r = [] then ⟨sign, r, .error .digit⟩
    else fractionPart (sign ++ digits r) (afterDigits r)

/-- Cuts the longest beginning of a number off a text that starts with a digit or a minus. -/
def cutNumber (cs : List Char) : NumberPiece :=
  match cs with
  | '-' :: r => integerPart ['-'] r
  | r => integerPart [] r

theorem digits_append_afterDigits (cs : List Char) : digits cs ++ afterDigits cs = cs :=
  List.takeWhile_append_dropWhile

theorem exponentSign_append (cs : List Char) : (exponentSign cs).1 ++ (exponentSign cs).2 = cs := by
  unfold exponentSign; split <;> simp

theorem exponentPart_append (lexeme rest : List Char) (kind : TokenKind) :
    (exponentPart lexeme rest kind).lexeme ++ (exponentPart lexeme rest kind).rest
      = lexeme ++ rest := by
  unfold exponentPart
  split
  · rfl
  · next c r =>
    split
    · have h := exponentSign_append r
      have h' := digits_append_afterDigits (exponentSign r).2
      simp only []
      split
      · next hd => rw [hd] at h' ⊢; simp [h]
      · simp [h', h]
    · simp

theorem fractionPart_append (lexeme rest : List Char) :
    (fractionPart lexeme rest).lexeme ++ (fractionPart lexeme rest).rest = lexeme ++ rest := by
  unfold fractionPart
  split
  · next r =>
    split
    · simp
    · rw [exponentPart_append]; simp [digits_append_afterDigits]
  · rw [exponentPart_append]

theorem integerPart_append (sign rest : List Char) :
    (integerPart sign rest).lexeme ++ (integerPart sign rest).rest = sign ++ rest := by
  unfold integerPart
  split
  · split
    · simp
    · rw [fractionPart_append]; simp
  · rw [fractionPart_append]; simp
  · split
    · rfl
    · rw [fractionPart_append]; simp [digits_append_afterDigits]

/-- Nothing of the text is lost. -/
theorem cutNumber_append (cs : List Char) :
    (cutNumber cs).lexeme ++ (cutNumber cs).rest = cs := by
  unfold cutNumber; split <;> rw [integerPart_append] <;> rfl

theorem exponentPart_lexeme (lexeme rest : List Char) (kind : TokenKind) :
    lexeme.length ≤ (exponentPart lexeme rest kind).lexeme.length := by
  unfold exponentPart
  split
  · simp
  · split
    · simp only []
      split <;> simp
    · simp

theorem fractionPart_lexeme (lexeme rest : List Char) :
    lexeme.length ≤ (fractionPart lexeme rest).lexeme.length := by
  unfold fractionPart
  split
  · split
    · simp
    · exact Nat.le_trans (by simp) (exponentPart_lexeme _ _ _)
  · exact exponentPart_lexeme _ _ _

/-- A piece that starts with a digit or a minus is not empty. -/
theorem cutNumber_lexeme_pos {c : Char} (r : List Char) (h : c.isDigit ∨ c = '-') :
    0 < (cutNumber (c :: r)).lexeme.length := by
  have signed (sign rest : List Char) (hs : sign.length = 1) :
      0 < (integerPart sign rest).lexeme.length := by
    unfold integerPart
    split
    · split
      · simp
      · exact Nat.lt_of_lt_of_le (by simp) (fractionPart_lexeme _ _)
    · exact Nat.lt_of_lt_of_le (by simp) (fractionPart_lexeme _ _)
    · split
      · simp [hs]
      · exact Nat.lt_of_lt_of_le (by simp; omega) (fractionPart_lexeme _ _)
  unfold cutNumber
  split
  · exact signed _ _ rfl
  · next hn =>
    have hd : c.isDigit := h.resolve_right fun hc => hn r (by rw [hc])
    unfold integerPart
    split
    · split
      · simp
      · exact Nat.lt_of_lt_of_le (by simp) (fractionPart_lexeme _ _)
    · exact Nat.lt_of_lt_of_le (by simp) (fractionPart_lexeme _ _)
    · have : digits (c :: r) = c :: digits r := List.takeWhile_cons_of_pos hd
      simp only [this, List.nil_append]
      split
      · simp_all
      · exact Nat.lt_of_lt_of_le (by simp) (fractionPart_lexeme _ _)

end MockSchema.Token
