import MockSchema.Text.Width
import MockSchema.Token.Number

/-!
# Cutting a schema text into tokens

The first character of what is left decides the class of the next token. Each step takes a piece off
the front; a step that fails takes a piece too, so scanning can go on behind it.
-/

namespace MockSchema.Token

/-- A place in a text: what is left of it and how many bytes lie before. -/
structure Cursor where
  rest : List Char
  offset : Nat
  deriving DecidableEq, Repr

def Cursor.start (source : List Char) : Cursor := ⟨source, 0⟩

/-- The place behind a piece from the front of the text. -/
def Cursor.skip (c : Cursor) (piece rest : List Char) : Cursor := ⟨rest, c.offset + Text.width piece⟩

def isSpace (c : Char) : Bool := c = ' ' || c = '\t' || c = '\r' || c = '\n'

def isWordChar (c : Char) : Bool := c.isAlphanum || c = '_'

/-- The text before the first delimiter and the text after it. -/
def untilDelimiter (delimiter : Char) : List Char → Option (List Char × List Char)
  | [] => none
  | c :: r =>
    if c = delimiter then some ([], r)
    else (untilDelimiter delimiter r).map fun (body, rest) => (c :: body, rest)

/-- The text before the first slash that does not follow a backslash, and the text after it. -/
def untilSlash (previous : Char) : List Char → Option (List Char × List Char)
  | [] => none
  | c :: r =>
    if c = '/' ∧ previous ≠ '\\' then some ([], r)
    else (untilSlash c r).map fun (body, rest) => (c :: body, rest)

/-- What a step gives: a token or an error, and the place to go on from. -/
abbrev Step := Except LexError Token × Cursor

/-- A token whose text is the whole piece. -/
def Cursor.whole (c : Cursor) (kind : TokenKind) (piece rest : List Char) : Step :=
  (.ok ⟨kind, String.ofList piece, c.offset⟩, c.skip piece rest)

/-- A token whose text stands between two delimiters; without the second one the rest of the text is
taken. -/
def Cursor.delimited (c : Cursor) (kind : TokenKind) (delimiter : Char) (rest : List Char)
    (found : Option (List Char × List Char)) (missing : LexError) : Step :=
  match found with
  | some (body, rest') =>
    (.ok ⟨kind, String.ofList body, c.offset⟩, c.skip (delimiter :: body ++ [delimiter]) rest')
  | none => (.error missing, c.skip (delimiter :: rest) [])

def Cursor.number (c : Cursor) : Step :=
  let piece := cutNumber c.rest
  let result := match piece.verdict with
    | .ok kind => .ok ⟨kind, String.ofList piece.lexeme, c.offset⟩
    | .error fault => .error (.malformedNumber (String.ofList piece.lexeme) fault c.offset)
  (result, c.skip piece.lexeme piece.rest)

/-- The next token, runs of white space included. At the end of the text it is `eof` for ever. -/
def scan (c : Cursor) : Step :=
  match c.rest with
  | [] => (.ok ⟨.eof, "", c.offset⟩, c)
  | ch :: r =>
    if isSpace ch then
      c.whole .whitespace ((ch :: r).takeWhile isSpace) ((ch :: r).dropWhile isSpace)
    else if ch.isAlpha then
      let word := (ch :: r).takeWhile isWordChar
      c.whole ((TokenKind.keyword? word).getD .ident) word ((ch :: r).dropWhile isWordChar)
    else if ch.isDigit || ch = '-' then c.number
    else
      match TokenKind.punctuation? ch with
      | some kind => c.whole kind [ch] r
      | none =>
        if ch = '"' then
          c.delimited .string '"' r (untilDelimiter '"' r) (.unclosedString c.offset)
        else if ch = '\x60' then
          c.delimited .template '\x60' r (untilDelimiter '\x60' r) (.unclosedString c.offset)
        else if ch = '/' then
          c.delimited .regex '/' r (untilSlash '/' r) (.unclosedPattern c.offset)
        else (.error (.strayChar ch c.offset), c.skip [ch] r)

/-- The results of the given number of steps. -/
def scanTimes : Nat → Cursor → List (Except LexError Token)
  | 0, _ => []
  | n + 1, c => (scan c).1 :: scanTimes n (scan c).2

theorem untilDelimiter_length {delimiter : Char} {cs body rest : List Char}
    (h : untilDelimiter delimiter cs = some (body, rest)) : rest.length < cs.length := by
  induction cs generalizing body with
  | nil => simp [untilDelimiter] at h
  | cons c r ih =>
    simp only [untilDelimiter] at h
    split at h
    · simp at h; simp [← h.2]
    · obtain ⟨⟨b, r'⟩, hb, he⟩ := Option.map_eq_some_iff.1 h
      simp only [Prod.mk.injEq] at he
      obtain ⟨_, rfl⟩ := he
      have := ih hb
      simp only [List.length_cons]; omega

theorem untilSlash_length {previous : Char} {cs body rest : List Char}
    (h : untilSlash previous cs = some (body, rest)) : rest.length < cs.length := by
  induction cs generalizing body previous with
  | nil => simp [untilSlash] at h
  | cons c r ih =>
    simp only [untilSlash] at h
    split at h
    · simp at h; simp [← h.2]
    · obtain ⟨⟨b, r'⟩, hb, he⟩ := Option.map_eq_some_iff.1 h
      simp only [Prod.mk.injEq] at he
      obtain ⟨_, rfl⟩ := he
      have := ih hb
      simp only [List.length_cons]; omega

theorem cutNumber_rest_length {c : Char} (r : List Char) (h : c.isDigit ∨ c = '-') :
    (cutNumber (c :: r)).rest.length < (c :: r).length := by
  have happ := congrArg List.length (cutNumber_append (c :: r))
  have hpos := cutNumber_lexeme_pos r h
  simp only [List.length_append] at happ
  omega

/-- Every step moves on until the text is used up. -/
theorem scan_rest_length {c : Cursor} (h : c.rest ≠ []) :
    (scan c).2.rest.length < c.rest.length := by
  obtain ⟨rest, offset⟩ := c
  cases rest with
  | nil => exact absurd rfl h
  | cons ch r =>
    simp only [scan]
    split
    · next hs =>
      have : ((ch :: r).dropWhile isSpace).length ≤ r.length := by
        rw [List.dropWhile_cons_of_pos hs]; exact (List.dropWhile_sublist _).length_le
      simp only [Cursor.whole, Cursor.skip, List.length_cons]; omega
    split
    · next ha =>
      have hw : isWordChar ch = true := by simp [isWordChar, Char.isAlphanum, ha]
      have : ((ch :: r).dropWhile isWordChar).length ≤ r.length := by
        rw [List.dropWhile_cons_of_pos hw]; exact (List.dropWhile_sublist _).length_le
      simp only [Cursor.whole, Cursor.skip, List.length_cons]; omega
    split
    · next hd =>
      exact cutNumber_rest_length r (by simpa using hd)
    split
    · simp [Cursor.whole, Cursor.skip]
    · have delimited (kind : TokenKind) (d : Char) (found) (missing : LexError)
          (hf : ∀ b r', found = some (b, r') → r'.length < r.length) :
          (Cursor.delimited ⟨ch :: r, offset⟩ kind d r found missing).2.rest.length
            < (ch :: r).length := by
        unfold Cursor.delimited
        split
        · have := hf _ _ rfl
          simp only [Cursor.skip, List.length_cons]; omega
        · simp [Cursor.skip]
      split
      · exact delimited _ _ _ _ fun _ _ => untilDelimiter_length
      split
      · exact delimited _ _ _ _ fun _ _ => untilDelimiter_length
      split
      · exact delimited _ _ _ _ fun _ _ => untilSlash_length
      · simp [Cursor.skip]

/-- Cuts the rest of a text into tokens. White space is left out, and the last token is `eof`. -/
def tokenizeFrom (c : Cursor) : Except LexError (List Token) :=
  if _ : c.rest = [] then .ok [⟨.eof, "", c.offset⟩]
  else
    match (scan c).1 with
    | .error e => .error e
    | .ok t =>
      match tokenizeFrom (scan c).2 with
      | .error e => .error e
      | .ok ts => .ok (if t.kind = .whitespace then ts else t :: ts)
termination_by c.rest.length
decreasing_by exact scan_rest_length ‹_›

/-- The tokens of a schema text. -/
def tokenize (source : String) : Except LexError (List Token) :=
  tokenizeFrom (Cursor.start source.toList)

end MockSchema.Token
