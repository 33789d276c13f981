import Mathlib.Tactic.ByContra
import Mathlib.Tactic.SplitIfs
import MockSchema.Token.Scan

/-!
# Scanning takes a text apart

Every step of the scanner takes a piece off the front of the text. `Takes` says which piece, and what is given
for it; all that follows is read off its rules. A token is spelled by its piece, and no piece is empty before
the end. So the pieces of any number of steps, errors included, are the text from its beginning up to the place
that was reached (`scanning_tiles`), and a text that is cut into tokens consists of their spellings with white
space between them (`Tiled`).
-/

namespace MockSchema

/-- What stands on either side of a literal of the kind. -/
def TokenKind.delimiter? : TokenKind → Option Char
  | .string => some '"'
  | .template => some '\x60'
  | .regex => some '/'
  | _ => none

namespace Token

/-- A token as it stands in a text. -/
def spelling (t : Token) : List Char :=
  match t.kind.delimiter? with
  | some d => d :: t.literal.toList ++ [d]
  | none => t.literal.toList

/-! ## One step -/

/-- How a step takes a piece off a text that is not used up, what is left behind it, and what is given for it.
There is a rule for every class of tokens and for every way to fail. -/
inductive Takes (offset : Nat) : List Char → List Char → Except LexError Token → Prop
  | space {run rest} (nonempty : run ≠ []) (blank : ∀ c ∈ run, isSpace c = true) :
      Takes offset run rest (.ok ⟨.whitespace, String.ofList run, offset⟩)
  | word {c r rest} (first : c.isAlpha = true) (others : ∀ d ∈ r, isWordChar d = true) :
      Takes offset (c :: r) rest
        (.ok ⟨(TokenKind.keyword? (c :: r)).getD .ident, String.ofList (c :: r), offset⟩)
  | number {c r rest kind} (first : (c.isDigit || c = '-') = true)
      (cut : cutNumber (c :: r ++ rest) = ⟨c :: r, rest, .ok kind⟩) :
      Takes offset (c :: r) rest (.ok ⟨kind, String.ofList (c :: r), offset⟩)
  | malformed {c r rest fault} (cut : cutNumber (c :: r ++ rest) = ⟨c :: r, rest, .error fault⟩) :
      Takes offset (c :: r) rest (.error (.malformedNumber (String.ofList (c :: r)) fault offset))
  | mark {c rest kind} (known : TokenKind.punctuation? c = some kind) :
      Takes offset [c] rest (.ok ⟨kind, String.ofList [c], offset⟩)
  | string {body rest} (closed : untilDelimiter '"' (body ++ '"' :: rest) = some (body, rest)) :
      Takes offset ('"' :: body ++ ['"']) rest (.ok ⟨.string, String.ofList body, offset⟩)
  | template {body rest} (closed : untilDelimiter '\x60' (body ++ '\x60' :: rest) = some (body, rest)) :
      Takes offset ('\x60' :: body ++ ['\x60']) rest (.ok ⟨.template, String.ofList body, offset⟩)
  | pattern {body rest} (closed : untilSlash '/' (body ++ '/' :: rest) = some (body, rest)) :
      Takes offset ('/' :: body ++ ['/']) rest (.ok ⟨.regex, String.ofList body, offset⟩)
  | unclosed {d body e} (missing : e = .unclosedString offset ∨ e = .unclosedPattern offset) :
      Takes offset (d :: body) [] (.error e)
  | stray {c rest} : Takes offset [c] rest (.error (.strayChar c offset))

/-- A text up to its delimiter, the delimiter, and the text behind it. -/
theorem untilDelimiter_eq_append {delimiter : Char} {cs body rest : List Char}
    (found : untilDelimiter delimiter cs = some (body, rest)) : cs = body ++ delimiter :: rest := by
  induction cs generalizing body with
  | nil => simp [untilDelimiter] at found
  | cons c r ih =>
    simp only [untilDelimiter] at found
    split at found
    · next same =>
      simp only [Option.some.injEq, Prod.mk.injEq] at found
      obtain ⟨rfl, rfl⟩ := found
      simp [same]
    · obtain ⟨⟨body', rest'⟩, later, same⟩ := Option.map_eq_some_iff.mp found
      simp only [Prod.mk.injEq] at same
      obtain ⟨rfl, rfl⟩ := same
      rw [ih later]
      simp

theorem untilSlash_eq_append {previous : Char} {cs body rest : List Char}
    (found : untilSlash previous cs = some (body, rest)) : cs = body ++ '/' :: rest := by
  induction cs generalizing body previous with
  | nil => simp [untilSlash] at found
  | cons c r ih =>
    simp only [untilSlash] at found
    split at found
    · next slash =>
      simp only [Option.some.injEq, Prod.mk.injEq] at found
      obtain ⟨rfl, rfl⟩ := found
      simp [slash.1]
    · obtain ⟨⟨body', rest'⟩, later, same⟩ := Option.map_eq_some_iff.mp found
      simp only [Prod.mk.injEq] at same
      obtain ⟨rfl, rfl⟩ := same
      rw [ih later]
      simp

/-- What holds of every step that is not at the end of the text. -/
def StepsOver (c : Cursor) (step : Step) : Prop :=
  ∃ piece, c.rest = piece ++ step.2.rest ∧ step.2.offset = c.offset + Text.width piece ∧
    Takes c.offset piece step.2.rest step.1

/-- A run of characters of one class is a piece. -/
theorem stepsOver_run {p : Char → Bool} {ch : Char} {r : List Char} {offset : Nat} {kind : TokenKind}
    (takes : Takes offset ((ch :: r).takeWhile p) ((ch :: r).dropWhile p)
      (.ok ⟨kind, String.ofList ((ch :: r).takeWhile p), offset⟩)) :
    StepsOver ⟨ch :: r, offset⟩
      (Cursor.whole ⟨ch :: r, offset⟩ kind ((ch :: r).takeWhile p) ((ch :: r).dropWhile p)) :=
  ⟨(ch :: r).takeWhile p, List.takeWhile_append_dropWhile.symm, rfl, takes⟩

/-- A literal between two delimiters is a piece with them, and without the second one all is. -/
theorem stepsOver_delimited {d : Char} {r : List Char} {offset : Nat} {kind : TokenKind}
    {found : Option (List Char × List Char)} {missing : LexError}
    (cut : ∀ {body rest}, found = some (body, rest) → r = body ++ d :: rest)
    (takes : ∀ {body rest}, found = some (body, rest) →
      Takes offset (d :: body ++ [d]) rest (.ok ⟨kind, String.ofList body, offset⟩))
    (fails : missing = .unclosedString offset ∨ missing = .unclosedPattern offset) :
    StepsOver ⟨d :: r, offset⟩ (Cursor.delimited ⟨d :: r, offset⟩ kind d r found missing) := by
  cases found with
  | none => exact ⟨d :: r, by simp [Cursor.delimited, Cursor.skip], rfl, .unclosed fails⟩
  | some pair =>
    obtain ⟨body, rest⟩ := pair
    refine ⟨d :: body ++ [d], ?_, rfl, takes rfl⟩
    simp [Cursor.delimited, Cursor.skip, cut rfl]

/-- A number is a piece, and so is what looks like the beginning of one. -/
theorem stepsOver_number {ch : Char} {r : List Char} {offset : Nat}
    (first : (ch.isDigit || ch = '-') = true) :
    StepsOver ⟨ch :: r, offset⟩ (Cursor.number ⟨ch :: r, offset⟩) := by
  have whole := cutNumber_append (ch :: r)
  have nonempty := cutNumber_lexeme_pos r (by simpa using first)
  generalize cut : cutNumber (ch :: r) = piece at whole nonempty
  obtain ⟨lexeme, rest, verdict⟩ := piece
  cases lexeme with
  | nil => simp at nonempty
  | cons c lexeme =>
    simp only [List.cons_append, List.cons.injEq] at whole
    obtain ⟨rfl, rfl⟩ := whole
    refine ⟨c :: lexeme, ?_, ?_, ?_⟩
    · simp [Cursor.number, cut, Cursor.skip]
    · simp [Cursor.number, cut, Cursor.skip]
    · cases verdict with
      | ok kind =>
        have takes : Takes offset (c :: lexeme) rest _ := .number first cut
        simpa [Cursor.number, cut, Cursor.skip] using takes
      | error fault =>
        have takes : Takes offset (c :: lexeme) rest _ := .malformed cut
        simpa [Cursor.number, cut, Cursor.skip] using takes

/-- Every step takes a piece off a text that is not used up. -/
theorem scan_stepsOver {c : Cursor} (unread : c.rest ≠ []) : StepsOver c (scan c) := by
  obtain ⟨rest, offset⟩ := c
  cases rest with
  | nil => exact absurd rfl unread
  | cons ch r =>
    simp only [scan]
    split
    · next space =>
      apply stepsOver_run
      apply Takes.space
      · simp [space]
      · exact List.all_eq_true.mp List.all_takeWhile
    split
    · next alpha =>
      apply stepsOver_run
      have word : isWordChar ch = true := by simp [isWordChar, Char.isAlphanum, alpha]
      rw [List.takeWhile_cons_of_pos word]
      exact .word alpha (List.all_eq_true.mp List.all_takeWhile)
    split
    · next first => exact stepsOver_number first
    split
    · next kind known => exact ⟨[ch], rfl, rfl, .mark known⟩
    split
    · next quote =>
      subst quote
      refine stepsOver_delimited untilDelimiter_eq_append (fun found => ?_) (.inl rfl)
      exact .string (untilDelimiter_eq_append found ▸ found)
    split
    · next backtick =>
      subst backtick
      refine stepsOver_delimited untilDelimiter_eq_append (fun found => ?_) (.inl rfl)
      exact .template (untilDelimiter_eq_append found ▸ found)
    split
    · next slash =>
      subst slash
      refine stepsOver_delimited untilSlash_eq_append (fun found => ?_) (.inr rfl)
      exact .pattern (untilSlash_eq_append found ▸ found)
    · exact ⟨[ch], rfl, rfl, .stray⟩

/-! ## What is given for a piece -/

theorem punctuation?_eq_some {c : Char} {kind : TokenKind}
    (known : TokenKind.punctuation? c = some kind) :
    kind.delimiter? = none ∧ kind ≠ .eof ∧ kind ≠ .whitespace := by
  unfold TokenKind.punctuation? at known
  split_ifs at known <;> cases known <;> decide

theorem keyword?_kind (word : List Char) :
    ((TokenKind.keyword? word).getD .ident).delimiter? = none ∧
      (TokenKind.keyword? word).getD .ident ≠ .eof ∧
        (TokenKind.keyword? word).getD .ident ≠ .whitespace := by
  unfold TokenKind.keyword?
  split <;> decide

/-- The kind of a piece that is a number. -/
theorem exponentPart_kind {lexeme rest : List Char} {kind kind' : TokenKind}
    (number : kind = .integer ∨ kind = .float)
    (cut : (exponentPart lexeme rest kind).verdict = .ok kind') :
    kind' = .integer ∨ kind' = .float := by
  unfold exponentPart at cut
  split at cut
  · cases cut
    exact number
  split at cut
  · simp only [] at cut
    split at cut
    · cases cut
    · cases cut
      exact .inr rfl
  · cases cut
    exact number

theorem fractionPart_kind {lexeme rest : List Char} {kind : TokenKind}
    (cut : (fractionPart lexeme rest).verdict = .ok kind) : kind = .integer ∨ kind = .float := by
  unfold fractionPart at cut
  split at cut
  · split at cut
    · cases cut
    · exact exponentPart_kind (.inr rfl) cut
  · exact exponentPart_kind (.inl rfl) cut

theorem integerPart_kind {sign rest : List Char} {kind : TokenKind}
    (cut : (integerPart sign rest).verdict = .ok kind) : kind = .integer ∨ kind = .float := by
  unfold integerPart at cut
  split at cut
  · split at cut
    · cases cut
    · exact fractionPart_kind cut
  · exact fractionPart_kind cut
  · split at cut
    · cases cut
    · exact fractionPart_kind cut

theorem cutNumber_kind {cs : List Char} {kind : TokenKind}
    (cut : (cutNumber cs).verdict = .ok kind) : kind = .integer ∨ kind = .float := by
  unfold cutNumber at cut
  split at cut <;> exact integerPart_kind cut

theorem Takes.ne_nil {offset : Nat} {piece rest : List Char} {result : Except LexError Token}
    (h : Takes offset piece rest result) :
    piece ≠ [] := by
  cases h with
  | space nonempty => exact nonempty
  | _ => simp

/-- A token is spelled by its piece and carries the offset of it. It is not the end, and white space is a run
of white space. -/
theorem Takes.spelled {offset : Nat} {piece rest : List Char} {t : Token}
    (h : Takes offset piece rest (.ok t)) :
    t.offset = offset ∧ t.spelling = piece ∧ t.kind ≠ .eof ∧
      (t.kind = .whitespace → ∀ c ∈ piece, isSpace c = true) := by
  cases h with
  | space nonempty blank => exact ⟨rfl, by simp [spelling, TokenKind.delimiter?], by simp, fun _ => blank⟩
  | @word c r _ first others =>
    obtain ⟨bare, eof, space⟩ := keyword?_kind (c :: r)
    simp [spelling, bare, eof, space]
  | number first cut =>
    rcases cutNumber_kind (congrArg NumberPiece.verdict cut) with rfl | rfl <;>
      simp [spelling, TokenKind.delimiter?]
  | mark known =>
    obtain ⟨bare, eof, space⟩ := punctuation?_eq_some known
    simp [spelling, bare, eof, space]
  | string closed => simp [spelling, TokenKind.delimiter?]
  | template closed => simp [spelling, TokenKind.delimiter?]
  | pattern closed => simp [spelling, TokenKind.delimiter?]

/-! ## Any number of steps -/

/-- The place after some steps. -/
def Cursor.after (c : Cursor) : Nat → Cursor
  | 0 => c
  | n + 1 => (scan (c.after n)).2

/-- What the next step takes off the text. -/
def Cursor.piece (c : Cursor) : List Char := c.rest.take (c.rest.length - (scan c).2.rest.length)

/-- The pieces of some steps in order. -/
def Cursor.pieces (c : Cursor) (n : Nat) : List (List Char) :=
  (List.range n).map fun i => (c.after i).piece

/-- The given result says that the text is used up. -/
def IsEnd (result : Except LexError Token) : Prop := ∃ t, result = .ok t ∧ t.kind = .eof

theorem scan_of_rest_eq_nil {c : Cursor} (read : c.rest = []) :
    scan c = (.ok ⟨.eof, "", c.offset⟩, c) := by
  obtain ⟨rest, offset⟩ := c
  cases read
  rfl

theorem piece_eq {c : Cursor} {piece : List Char} (whole : c.rest = piece ++ (scan c).2.rest) :
    c.piece = piece := by
  unfold Cursor.piece
  generalize (scan c).2.rest = rest at whole
  simp [whole]

/-- The piece of a step is what the step takes. -/
theorem scan_piece {c : Cursor} (unread : c.rest ≠ []) :
    Takes c.offset c.piece (scan c).2.rest (scan c).1 := by
  obtain ⟨piece, whole, -, takes⟩ := scan_stepsOver unread
  exact piece_eq whole ▸ takes

/-- Nothing is lost by a step, not even at the end of the text. -/
theorem piece_append (c : Cursor) :
    c.piece ++ (scan c).2.rest = c.rest ∧ (scan c).2.offset = c.offset + Text.width c.piece := by
  by_cases read : c.rest = []
  · simp [Cursor.piece, scan_of_rest_eq_nil read, read]
  · obtain ⟨piece, whole, moved, -⟩ := scan_stepsOver read
    rw [piece_eq whole]
    exact ⟨whole.symm, moved⟩

/-- Only at the end of the text is the end given. -/
theorem isEnd_scan_iff (c : Cursor) : IsEnd (scan c).1 ↔ c.rest = [] := by
  constructor
  · rintro ⟨t, given, eof⟩
    by_contra unread
    have takes := scan_piece unread
    rw [given] at takes
    exact takes.spelled.2.2.1 eof
  · intro read
    rw [scan_of_rest_eq_nil read]
    exact ⟨_, rfl, rfl⟩

variable (c : Cursor)

/-- The pieces of some steps are what stands in front of the place behind them. By induction on the steps; each
of them moves one piece over. -/
theorem pieces_append (n : Nat) :
    (c.pieces n).flatten ++ (c.after n).rest = c.rest ∧
      (c.after n).offset = c.offset + Text.width (c.pieces n).flatten := by
  induction n with
  | zero => simp [Cursor.pieces, Cursor.after]
  | succ n ih =>
    obtain ⟨whole, moved⟩ := ih
    obtain ⟨split, width⟩ := piece_append (c.after n)
    have next : c.pieces (n + 1) = c.pieces n ++ [(c.after n).piece] := by
      simp [Cursor.pieces, List.range_succ]
    rw [next]
    simp only [Cursor.after, List.flatten_append, List.flatten_singleton, List.append_assoc,
      Text.width_append]
    constructor
    · rw [split, whole]
    · rw [width, moved]
      omega

theorem after_succ (n : Nat) : c.after (n + 1) = (scan c).2.after n := by
  induction n with
  | zero => rfl
  | succ n ih =>
    have last : c.after (n + 1 + 1) = (scan (c.after (n + 1))).2 := rfl
    rw [last, ih]
    rfl

theorem scanTimes_eq (n : Nat) :
    scanTimes n c = (List.range n).map fun i => (scan (c.after i)).1 := by
  induction n generalizing c with
  | zero => rfl
  | succ n ih =>
    rw [scanTimes, ih, List.range_succ_eq_map, List.map_cons, List.map_map]
    congr 1
    apply List.map_congr_left
    intro i _
    exact congrArg (fun place => (scan place).1) (after_succ c i).symm

/-- At the end of the text there are no more moves. -/
theorem after_of_rest_eq_nil (read : c.rest = []) (n : Nat) : c.after n = c := by
  induction n with
  | zero => rfl
  | succ n ih => rw [Cursor.after, ih, scan_of_rest_eq_nil read]

theorem after_add (m n : Nat) : c.after (m + n) = (c.after m).after n := by
  induction n with
  | zero => rfl
  | succ n ih =>
    rw [Nat.add_succ, Cursor.after, ih]
    rfl

/-- The text is used up after at most as many steps as it has characters. By induction on the characters left,
of which every step before the end takes one at least. -/
theorem exists_end : ∃ k ≤ c.rest.length, (c.after k).rest = [] ∧ ∀ n < k, (c.after n).rest ≠ [] := by
  induction length : c.rest.length using Nat.strongRecOn generalizing c with
  | ind m ih =>
    subst length
    by_cases read : c.rest = []
    · exact ⟨0, Nat.zero_le _, read, by simp⟩
    · have shorter := scan_rest_length read
      obtain ⟨k, bound, ended, before⟩ := ih _ shorter (scan c).2 rfl
      refine ⟨k + 1, by omega, by rwa [after_succ], ?_⟩
      intro n below
      cases n with
      | zero => exact read
      | succ n =>
        rw [after_succ]
        exact before n (by omega)

/-! ## Cutting a text into tokens -/

/-- The tokens among some results: none if one of them is an error, and white space is left out. -/
def collect (results : List (Except LexError Token)) : Except LexError (List Token) := do
  return (← results.mapM id).filter fun t => t.kind ≠ .whitespace

/-- A text that consists of tokens, each spelled where its offset says, with any white space in front of each.
The end stands behind the last of them, and nowhere else. -/
inductive Tiled : Nat → List Token → List Char → Prop
  | last {offset space} (blank : ∀ c ∈ space, isSpace c = true) :
      Tiled offset [⟨.eof, "", offset + Text.width space⟩] space
  | token {offset t ts space cs} (blank : ∀ c ∈ space, isSpace c = true)
      (kind : t.kind ≠ .eof ∧ t.kind ≠ .whitespace) (start : t.offset = offset + Text.width space)
      (rest : Tiled (t.offset + Text.width t.spelling) ts cs) :
      Tiled offset (t :: ts) (space ++ (t.spelling ++ cs))

/-- White space may stand in front of everything. -/
theorem Tiled.behind {offset : Nat} {ts : List Token} {space cs : List Char}
    (blank : ∀ c ∈ space, isSpace c = true) (h : Tiled (offset + Text.width space) ts cs) :
    Tiled offset ts (space ++ cs) := by
  cases h with
  | @last _ space' blank' =>
    rw [Nat.add_assoc, ← Text.width_append]
    exact .last (List.forall_mem_append.mpr ⟨blank, blank'⟩)
  | @token _ t ts space' cs' blank' kind start rest =>
    rw [Nat.add_assoc, ← Text.width_append] at start
    rw [← List.append_assoc]
    exact .token (List.forall_mem_append.mpr ⟨blank, blank'⟩) kind start rest

/-- The end is the last token, at the end of the text, and no other token is one. -/
theorem Tiled.ends {offset : Nat} {ts : List Token} {cs : List Char} (h : Tiled offset ts cs) :
    ∃ before, ts = before ++ [⟨.eof, "", offset + Text.width cs⟩] ∧
      ∀ t ∈ before, t.kind ≠ .eof ∧ t.kind ≠ .whitespace := by
  induction h with
  | last blank => exact ⟨[], rfl, by simp⟩
  | @token offset t ts space cs blank kind start rest ih =>
    obtain ⟨before, split, others⟩ := ih
    have bytes : t.offset + Text.width t.spelling + Text.width cs =
        offset + Text.width (space ++ (t.spelling ++ cs)) := by
      rw [start, Text.width_append, Text.width_append]
      omega
    rw [bytes] at split
    exact ⟨t :: before, by rw [split, List.cons_append], List.forall_mem_cons.mpr ⟨kind, others⟩⟩

/-- A text that is cut into tokens is used up, or its first step gives a token and the rest is cut too. -/
theorem tokenizeFrom_eq_ok {c : Cursor} {ts : List Token} (cut : tokenizeFrom c = .ok ts) :
    (c.rest = [] ∧ ts = [⟨.eof, "", c.offset⟩]) ∨
      ∃ t later, c.rest ≠ [] ∧ (scan c).1 = .ok t ∧ tokenizeFrom (scan c).2 = .ok later ∧
        ts = if t.kind = .whitespace then later else t :: later := by
  rw [tokenizeFrom] at cut
  split at cut
  · next read =>
    cases cut
    exact .inl ⟨read, rfl⟩
  next unread =>
  split at cut
  · cases cut
  next t given =>
  split at cut
  · cases cut
  next later rest =>
  cases cut
  exact .inr ⟨t, later, unread, given, rest, rfl⟩

/-- Tokens that were cut from a text make it up again. By induction along the cuts. -/
theorem tokenizeFrom_tiled {ts : List Token} (cut : tokenizeFrom c = .ok ts) :
    Tiled c.offset ts c.rest := by
  induction length : c.rest.length using Nat.strongRecOn generalizing c ts with
  | ind m ih =>
    subst length
    rcases tokenizeFrom_eq_ok cut with ⟨read, rfl⟩ | ⟨t, later, unread, given, rest, rfl⟩
    · have last : Tiled c.offset [⟨.eof, "", c.offset + Text.width []⟩] [] := .last (by simp)
      rwa [read]
    · obtain ⟨whole, moved⟩ := piece_append c
      have takes := scan_piece unread
      rw [given] at takes
      obtain ⟨start, spelled, eof, space⟩ := takes.spelled
      have tiled := ih _ (scan_rest_length unread) _ rest rfl
      rw [moved] at tiled
      rw [← whole]
      by_cases white : t.kind = .whitespace
      · rw [if_pos white]
        exact tiled.behind (space white)
      · have first : Tiled c.offset (t :: later) ([] ++ (t.spelling ++ (scan c).2.rest)) := by
          refine .token (by simp) ⟨eof, white⟩ (by simp [start]) ?_
          rwa [start, spelled]
        rw [if_neg white, ← spelled]
        exact first

/-- Every token of a text, the end apart, was taken off it. By induction along the cuts. -/
theorem taken_of_mem {c : Cursor} {ts : List Token} (cut : tokenizeFrom c = .ok ts) :
    ∀ t ∈ ts, t.kind ≠ .eof →
      t.kind ≠ .whitespace ∧ ∃ piece rest, Takes t.offset piece rest (.ok t) := by
  induction length : c.rest.length using Nat.strongRecOn generalizing c ts with
  | ind m ih =>
    subst length
    rcases tokenizeFrom_eq_ok cut with ⟨-, rfl⟩ | ⟨t, later, unread, given, rest, rfl⟩
    · simp
    have others := ih _ (scan_rest_length unread) rest rfl
    by_cases white : t.kind = .whitespace
    · rw [if_pos white]
      exact others
    · rw [if_neg white]
      refine List.forall_mem_cons.mpr ⟨fun _ => ⟨white, c.piece, (scan c).2.rest, ?_⟩, others⟩
      have takes := scan_piece unread
      rw [given] at takes
      exact takes.spelled.1 ▸ takes

/-- The tokens of a text are collected from the steps up to the one that gives the end. -/
theorem tokenizeFrom_eq_collect {k : Nat} (ended : (c.after k).rest = [])
    (before : ∀ n < k, (c.after n).rest ≠ []) :
    tokenizeFrom c = collect (scanTimes (k + 1) c) := by
  induction k generalizing c with
  | zero =>
    have read : c.rest = [] := ended
    rw [tokenizeFrom, dif_pos read, scanTimes, scanTimes, scan_of_rest_eq_nil read]
    simp [collect, pure, Except.pure, bind, Except.bind]
  | succ k ih =>
    have unread : c.rest ≠ [] := before 0 (by omega)
    have later := ih (scan c).2 (by rwa [← after_succ]) fun n below => by
      rw [← after_succ]
      exact before (n + 1) (by omega)
    rw [tokenizeFrom, dif_neg unread, scanTimes, later]
    cases (scan c).1 with
    | error e => rfl
    | ok t =>
      simp only [collect, List.mapM_cons, id, bind, Except.bind, pure, Except.pure]
      cases (scanTimes (k + 1) (scan c).2).mapM id with
      | error e => rfl
      | ok ts =>
        by_cases white : t.kind = .whitespace <;> simp [white]

/-! ## Whole texts -/

/-- The place in a text after some steps. -/
def place (source : String) (n : Nat) : Cursor := (Cursor.start source.toList).after n

/-- What scanning does with a text, step by step and over all steps. Errors do not stop it. -/
structure Tiling (source : String) : Prop where
  /-- Steps give their results in order. -/
  steps : ∀ n, scanTimes n (Cursor.start source.toList) =
    (List.range n).map fun i => (scan (place source i)).1
  /-- The pieces of the first steps stand one behind the other at the front of the text, and the offset of the
  place behind them counts their bytes. -/
  consecutive : ∀ n, ((Cursor.start source.toList).pieces n).flatten ++ (place source n).rest =
      source.toList ∧
    (place source n).offset =
      (String.ofList ((Cursor.start source.toList).pieces n).flatten).utf8ByteSize
  /-- A step that does not give the end takes a character at least. -/
  progress : ∀ n, ¬ IsEnd (scan (place source n)).1 → (place source n).piece ≠ []
  /-- A token is spelled by its piece and carries the offset of it. -/
  spelled : ∀ n t, (scan (place source n)).1 = .ok t →
    t.offset = (place source n).offset ∧ t.spelling = (place source n).piece
  /-- After at most as many steps as there are characters, and not before the text is used up, every step gives
  the end. -/
  ending : ∃ k ≤ source.length, (∀ n < k, ¬ IsEnd (scan (place source n)).1) ∧
    (∀ n, k ≤ n → (scan (place source n)).1 = .ok ⟨.eof, "", source.utf8ByteSize⟩) ∧
      tokenize source = collect (scanTimes (k + 1) (Cursor.start source.toList))
  /-- The tokens of the text make it up, with white space between them, and only the last of them is the end. -/
  tiled : ∀ ts, tokenize source = .ok ts → Tiled 0 ts source.toList ∧
    ∃ before, ts = before ++ [⟨.eof, "", source.utf8ByteSize⟩] ∧
      ∀ t ∈ before, t.kind ≠ .eof ∧ t.kind ≠ .whitespace

theorem width_eq_utf8ByteSize (cs : List Char) : Text.width cs = (String.ofList cs).utf8ByteSize := by
  induction cs with
  | nil => rfl
  | cons c cs ih => rw [Text.width_cons, ih, String.ofList_cons, String.utf8ByteSize_append,
      String.utf8ByteSize_singleton]

/-- Every text is tiled by the pieces of the steps over it. -/
theorem scanning_tiles (source : String) : Tiling source := by
  have parts := pieces_append (Cursor.start source.toList)
  have bytes : source.utf8ByteSize = Text.width source.toList := by
    rw [width_eq_utf8ByteSize, String.ofList_toList]
  refine ⟨scanTimes_eq _, ?_, ?_, ?_, ?_, ?_⟩
  · intro n
    obtain ⟨whole, moved⟩ := parts n
    have offset : (place source n).offset =
        0 + Text.width ((Cursor.start source.toList).pieces n).flatten := moved
    refine ⟨whole, ?_⟩
    rw [offset, width_eq_utf8ByteSize, Nat.zero_add]
  · intro n unfinished
    have unread : (place source n).rest ≠ [] := (isEnd_scan_iff _).not.mp unfinished
    exact (scan_piece unread).ne_nil
  · intro n t given
    by_cases read : (place source n).rest = []
    · rw [scan_of_rest_eq_nil read] at given
      cases given
      simp [spelling, TokenKind.delimiter?, Cursor.piece, read]
    · have takes := scan_piece read
      rw [given] at takes
      exact ⟨takes.spelled.1, takes.spelled.2.1⟩
  · obtain ⟨k, bound, ended, before⟩ := exists_end (Cursor.start source.toList)
    have bound : k ≤ source.length := String.length_toList ▸ bound
    refine ⟨k, bound, ?_, ?_, tokenizeFrom_eq_collect _ ended before⟩
    · intro n below
      exact (isEnd_scan_iff _).not.mpr (before n below)
    · intro n reached
      -- no step moves on from the end, so the place is the one where the text was used up
      have same : place source n = (Cursor.start source.toList).after k := by
        obtain ⟨m, rfl⟩ := Nat.exists_eq_add_of_le reached
        rw [place, after_add, after_of_rest_eq_nil _ ended]
      obtain ⟨whole, moved⟩ := parts k
      rw [ended, List.append_nil] at whole
      rw [same, scan_of_rest_eq_nil ended, moved, whole, bytes]
      simp [Cursor.start]
  · intro ts cut
    have tiled := tokenizeFrom_tiled (Cursor.start source.toList) cut
    refine ⟨tiled, ?_⟩
    obtain ⟨before, split, others⟩ := tiled.ends
    refine ⟨before, ?_, others⟩
    rw [split, bytes]
    simp [Cursor.start]

end Token

end MockSchema
