import MockSchema.Proofs.Reading
import MockSchema.Proofs.Rescanning

/-!
# Tokens written down again

The tokens of a text, written down with any white space between them, are cut again as they are, since each of
them is scanned again in front of white space (`tokenizeFrom_respell`). Reading a schema looks at the kinds and
the texts of tokens only, never at their offsets, and therefore gives the same schema (`Schema.parse_sameOk`).
-/

namespace MockSchema

namespace Token

/-! ## Cutting what was written down -/

/-- What a token is, wherever it stands. -/
def content (t : Token) : TokenKind × String := (t.kind, t.literal)

/-- White space between two tokens. -/
structure Gap where
  chars : List Char
  nonempty : chars ≠ []
  blank : ∀ c ∈ chars, isSpace c = true

/-- Tokens written one after the other with a gap between each and the next. -/
def respell (gap : Nat → Gap) : List Token → List Char
  | [] => []
  | [t] => t.spelling
  | t :: u :: rest => t.spelling ++ ((gap 0).chars ++ respell (fun n => gap (n + 1)) (u :: rest))

theorem Gap.separated (gap : Gap) (rest : List Char) : Separated (gap.chars ++ rest) := by
  intro c head
  obtain ⟨d, r, cut⟩ := List.exists_cons_of_ne_nil gap.nonempty
  rw [cut] at head
  cases head
  exact gap.blank c (cut ▸ List.mem_cons_self)

/-- Behind a token stand the next gap and the other tokens, or there are none and the text goes on as it likes. -/
theorem respell_cons (gap : Nat → Gap) (t : Token) (before : List Token) {back : List Char}
    (blank : ∀ c ∈ back, isSpace c = true) :
    ∃ space rest, (∀ c ∈ space, isSpace c = true) ∧ Separated (space ++ rest) ∧
      rest = respell (fun n => gap (n + 1)) before ++ back ∧
      respell gap (t :: before) ++ back = t.spelling ++ (space ++ rest) := by
  cases before with
  | nil => exact ⟨[], back, by simp, fun c head => blank c (List.mem_of_mem_head? head), rfl, rfl⟩
  | cons u before =>
    exact ⟨(gap 0).chars, _, (gap 0).blank, (gap 0).separated _, rfl, by simp [respell]⟩

/-- A token that is no white space and not the end, and is scanned wherever it is spelled in front of white
space. -/
def Rescans (t : Token) : Prop :=
  t.kind ≠ .eof ∧ t.kind ≠ .whitespace ∧ ∀ rest, Separated rest → ∀ offset,
    scan ⟨t.spelling ++ rest, offset⟩ =
      (.ok ⟨t.kind, t.literal, offset⟩, ⟨rest, offset + Text.width t.spelling⟩)

theorem tokenizeFrom_rescans {c : Cursor} {ts : List Token} (cut : tokenizeFrom c = .ok ts) :
    ∀ t ∈ ts, t.kind ≠ .eof → Rescans t := by
  intro t member eof
  obtain ⟨white, piece, left, takes⟩ := taken_of_mem cut t member eof
  obtain ⟨-, spelled, -⟩ := takes.spelled
  refine ⟨eof, white, fun rest separated offset => ?_⟩
  rw [spelled]
  exact takes.again white separated offset

/-- Tokens that are written down again are cut again. By induction on them, behind any white space. -/
theorem tokenizeFrom_respell {before : List Token} (rescan : ∀ t ∈ before, Rescans t)
    (gap : Nat → Gap) {space back : List Char} (blank : ∀ c ∈ space, isSpace c = true)
    (blankBack : ∀ c ∈ back, isSpace c = true) (offset : Nat) :
    ∃ ts, tokenizeFrom ⟨space ++ (respell gap before ++ back), offset⟩ = .ok ts ∧
      ts.map content = before.map content ++ [(.eof, "")] := by
  induction before generalizing gap space offset with
  | nil =>
    have allBlank : ∀ c ∈ space ++ back, isSpace c = true :=
      List.forall_mem_append.mpr ⟨blank, blankBack⟩
    have begins : ∀ c ∈ ([] : List Char).head?, isSpace c = false := by simp
    obtain ⟨behind, skipped⟩ := tokenizeFrom_blank allBlank begins offset
    refine ⟨[⟨.eof, "", behind⟩], ?_, rfl⟩
    rw [List.append_nil] at skipped
    rw [respell, List.nil_append, skipped, tokenizeFrom, dif_pos rfl]
  | cons t before ih =>
    obtain ⟨⟨eof, white, again⟩, rescan⟩ := List.forall_mem_cons.mp rescan
    obtain ⟨between, rest, blankBetween, separated, others, written⟩ :=
      respell_cons gap t before blankBack
    have solid : ∀ {t' : Token}, t'.content = t.content → t'.kind ≠ .whitespace ∧ t'.kind ≠ .eof := by
      intro t' same
      have kinds : t'.kind = t.kind := congrArg Prod.fst same
      exact kinds ▸ ⟨white, eof⟩
    have scanned : ∀ offset, ∃ t' behind, scan ⟨t.spelling ++ (between ++ rest), offset⟩ =
        (.ok t', ⟨between ++ rest, behind⟩) ∧ t'.content = t.content :=
      fun offset => ⟨_, _, again _ separated offset, rfl⟩
    obtain ⟨t', behind, same, goesOn⟩ := tokenizeFrom_next solid blank scanned offset
    obtain ⟨ts, read, contents⟩ := ih rescan (fun n => gap (n + 1)) blankBetween behind
    rw [← others] at read
    exact ⟨t' :: ts, by rw [written, goesOn read], by simp [same, contents]⟩

end Token

/-! ## Reading without offsets -/

/-- Two steps that succeed with the same results. -/
def SameOk {ε α : Type} (x y : Except ε α) : Prop := ∀ a, x = .ok a ↔ y = .ok a

theorem SameOk.refl {ε α : Type} (x : Except ε α) : SameOk x x := fun _ => Iff.rfl

theorem sameOk_error {ε α : Type} (e e' : ε) : SameOk (.error e : Except ε α) (.error e') := by
  intro a
  simp

theorem SameOk.bind {ε α β : Type} {x y : Except ε α} {f g : α → Except ε β} (first : SameOk x y)
    (second : ∀ a, SameOk (f a) (g a)) : SameOk (x >>= f) (y >>= g) := by
  intro b
  rw [bind_eq_ok_iff, bind_eq_ok_iff]
  exact exists_congr fun a => and_congr (first a) (second a b)

variable {η : Type} {t t' : Token}

theorem Token.Denotes.of_content {ctx : Context η} {node : Node η} (same : t.content = t'.content)
    (h : t.Denotes ctx node) : t'.Denotes ctx node := by
  obtain ⟨kind, literal, offset⟩ := t
  obtain ⟨kind', literal', offset'⟩ := t'
  cases same
  cases h with
  | terminal kind registered => exact .terminal kind registered
  | integer kind integer => exact .integer kind integer
  | float kind number finite => exact .float kind number finite
  | string kind => exact .string kind
  | template kind written leftmost registered => exact .template kind written leftmost registered
  | pattern kind compiles => exact .pattern kind compiles
  | null kind => exact .null kind
  | true kind => exact .true kind
  | false kind => exact .false kind

namespace Reading

theorem leaf?_sameOk (ctx : Context η) (opened : List (OpenNode η))
    (same : t.content = t'.content) :
    SameOk
      (match leaf? ctx t with
        | some node => do return complete opened (← node)
        | none => refuse .value t)
      (match leaf? ctx t' with
        | some node => do return complete opened (← node)
        | none => refuse .value t') := by
  have kinds : t.kind = t'.kind := congrArg Prod.fst same
  cases read : leaf? ctx t with
  | none =>
    have none : leaf? ctx t' = none := by
      rw [leaf?_eq_none_iff, ← kinds, ← leaf?_eq_none_iff ctx]
      exact read
    rw [none]
    exact sameOk_error _ _
  | some node =>
    cases read' : leaf? ctx t' with
    | none =>
      rw [leaf?_eq_none_iff, ← kinds, ← leaf?_eq_none_iff ctx, read] at read'
      cases read'
    | some node' =>
      refine SameOk.bind (fun a => ?_) fun a => SameOk.refl _
      constructor
      · rintro rfl
        have stands := ((leaf?_eq_ok_iff ctx t a).mp read).of_content same
        rw [← leaf?_eq_ok_iff, read'] at stands
        exact Option.some.inj stands
      · rintro rfl
        have stands := ((leaf?_eq_ok_iff ctx t' a).mp read').of_content same.symm
        rw [← leaf?_eq_ok_iff, read] at stands
        exact Option.some.inj stands

theorem takeValue_sameOk (ctx : Context η) (opened : List (OpenNode η))
    (same : t.content = t'.content) :
    SameOk (takeValue ctx opened t) (takeValue ctx opened t') := by
  have leaves := leaf?_sameOk ctx opened same
  obtain ⟨kind, literal, offset⟩ := t
  obtain ⟨kind', literal', offset'⟩ := t'
  cases same
  cases kind with
  | lbrace | lbracket | lparen => exact SameOk.refl _
  | _ => exact leaves

theorem takeKey_sameOk (members : List (String × Node η)) (opened : List (OpenNode η))
    (same : t.content = t'.content) : SameOk (takeKey members opened t) (takeKey members opened t') := by
  obtain ⟨kind, literal, offset⟩ := t
  obtain ⟨kind', literal', offset'⟩ := t'
  cases same
  unfold takeKey
  split
  · exact SameOk.refl _
  · exact sameOk_error _ _

theorem takeKind_sameOk (kind : TokenKind) (reading : Reading η) (same : t.content = t'.content) :
    SameOk (takeKind kind t reading) (takeKind kind t' reading) := by
  have kinds : t.kind = t'.kind := congrArg Prod.fst same
  unfold takeKind
  rw [kinds]
  split
  · exact SameOk.refl _
  · exact sameOk_error _ _

theorem readInteger_sameOk (same : t.content = t'.content) :
    SameOk (readInteger t) (readInteger t') := by
  have literals : t.literal = t'.literal := congrArg Prod.snd same
  intro n
  rw [readInteger_eq_ok_iff, readInteger_eq_ok_iff, literals]

/-- Two tokens of one content are both of a kind, and then go on alike, or are both not. -/
theorem ifKind_sameOk {α : Type} (kind : TokenKind) {x x' y y' : Except SchemaError α}
    (same : t.content = t'.content) (taken : SameOk x x') (other : SameOk y y') :
    SameOk (if t.kind = kind then x else y) (if t'.kind = kind then x' else y') := by
  have kinds : t.kind = t'.kind := congrArg Prod.fst same
  rw [kinds]
  split
  · exact taken
  · exact other

/-- A step looks at the content of its token only, unless it fails. -/
theorem step_sameOk (ctx : Context η) (reading : Reading η) (same : t.content = t'.content) :
    SameOk (reading.step ctx t) (reading.step ctx t') := by
  have refused (expected : Expectation) :
      SameOk (refuse expected t : Except SchemaError (Reading η)) (refuse expected t') :=
    sameOk_error _ _
  obtain ⟨wanted, opened⟩ := reading
  cases wanted with
  | start => exact ifKind_sameOk .eof same (SameOk.refl _) (takeValue_sameOk ctx opened same)
  | value => exact takeValue_sameOk ctx opened same
  | keyOrBrace => exact ifKind_sameOk .rbrace same (SameOk.refl _) (takeKey_sameOk [] opened same)
  | key members => exact takeKey_sameOk members opened same
  | colon members key => exact takeKind_sameOk .colon _ same
  | commaOrBrace members =>
    exact ifKind_sameOk .comma same (SameOk.refl _)
      (ifKind_sameOk .rbrace same (SameOk.refl _) (refused _))
  | elementOrBracket =>
    exact ifKind_sameOk .rbracket same (SameOk.refl _)
      (ifKind_sameOk .lparen same (SameOk.refl _) (takeValue_sameOk ctx _ same))
  | rangeMin use =>
    have read := (readInteger_sameOk same).bind fun n =>
      SameOk.refl (.ok ⟨.rangeSeparator use n, opened⟩ : Except SchemaError (Reading η))
    exact ifKind_sameOk .integer same read (refused _)
  | rangeSeparator use min =>
    exact ifKind_sameOk .rparen same (SameOk.refl _)
      (ifKind_sameOk .comma same (SameOk.refl _) (refused _))
  | rangeMax use min =>
    exact ifKind_sameOk .integer same ((readInteger_sameOk same).bind fun _ => SameOk.refl _)
      (refused _)
  | rangeClose use r => exact ifKind_sameOk .rparen same (SameOk.refl _) (refused _)
  | lengthComma r => exact takeKind_sameOk .comma _ same
  | bracket length element => exact ifKind_sameOk .rbracket same (SameOk.refl _) (refused _)
  | stop root => exact takeKind_sameOk .eof _ same

/-- Reading looks at the contents of the tokens only, by induction on them. -/
theorem run_sameOk (ctx : Context η) {last last' : Token} (lasts : last.content = last'.content)
    {ts ts' : List Token} (same : ts.map Token.content = ts'.map Token.content)
    (reading : Reading η) : SameOk (run ctx last reading ts) (run ctx last' reading ts') := by
  induction ts generalizing ts' reading with
  | nil =>
    obtain rfl : ts' = [] := by simpa using same.symm
    exact step_sameOk ctx reading lasts
  | cons t ts ih =>
    obtain ⟨t', later, rfl, first, rest⟩ := List.map_eq_cons_iff.mp same.symm
    rw [run, run]
    refine (step_sameOk ctx reading first.symm).bind fun next => ?_
    exact ifKind_sameOk .eof first.symm (SameOk.refl _) (ih rest.symm next)

end Reading

/-- Tokens of the same contents make up the same schema, if any. -/
theorem Schema.ofTokens_sameOk (ctx : Context η) {ts ts' : List Token}
    (same : ts.map Token.content = ts'.map Token.content) :
    SameOk (ofTokens ctx ts) (ofTokens ctx ts') := by
  have ends : ∀ tokens : List Token, (Token.endOf tokens).content = (.eof, "") := by
    intro tokens
    unfold Token.endOf
    split <;> rfl
  exact (Reading.run_sameOk ctx ((ends ts).trans (ends ts').symm) same _).bind
    fun reading => SameOk.refl _

/-- Texts whose tokens have the same contents describe the same schema, if any. -/
theorem Schema.parse_sameOk (ctx : Context η) {source source' : String} {ts ts' : List Token}
    (cut : Token.tokenize source = .ok ts) (cut' : Token.tokenize source' = .ok ts')
    (same : ts.map Token.content = ts'.map Token.content) :
    SameOk (parse ctx source) (parse ctx source') := by
  unfold parse
  rw [cut, cut']
  exact ofTokens_sameOk ctx same

/-- The tokens of a text, written one after the other with any white space between each and the next, are cut
again with the same kinds and literals in the same order, and describe the same schema, if any. White space may
also stand in front of the first and behind the last; the end is spelled by nothing. -/
theorem Token.tokenize_respelled {source : String} {ts : List Token} (cut : tokenize source = .ok ts)
    (gap : Nat → Gap) {front back : List Char} (blankFront : ∀ c ∈ front, isSpace c = true)
    (blankBack : ∀ c ∈ back, isSpace c = true) :
    ∃ ts', tokenize (String.ofList (front ++ (respell gap ts.dropLast ++ back))) = .ok ts' ∧
      ts'.map content = ts.map content ∧
      ∀ {η : Type} (ctx : Context η) (schema : Schema η),
        Schema.parse ctx (String.ofList (front ++ (respell gap ts.dropLast ++ back))) = .ok schema ↔
          Schema.parse ctx source = .ok schema := by
  obtain ⟨before, ends, others⟩ := (tokenizeFrom_tiled (Cursor.start source.toList) cut).ends
  have dropped : ts.dropLast = before := by rw [ends, List.dropLast_concat]
  have rescan : ∀ t ∈ before, Rescans t := by
    intro t member
    have listed : t ∈ ts := ends ▸ List.mem_append_left _ member
    exact tokenizeFrom_rescans cut t listed (others t member).1
  obtain ⟨ts', again, contents⟩ := tokenizeFrom_respell rescan gap blankFront blankBack 0
  rw [dropped]
  have read : tokenize (String.ofList (front ++ (respell gap before ++ back))) = .ok ts' := by
    rw [tokenize, String.toList_ofList]
    exact again
  have same : ts'.map content = ts.map content := by
    rw [contents, ends, List.map_append]
    rfl
  exact ⟨ts', read, same, fun ctx => Schema.parse_sameOk ctx read cut same⟩

/-- A list that is written without white space, and again with a line for each token. -/
theorem Token.tokenize_respelled_packed :
    ∃ ts, tokenize "[(1,2),/a\\/b/]" = .ok ts ∧
      ∃ ts', tokenize (String.ofList
          ([' '] ++ (respell (fun _ => ⟨['\r', '\n'], by simp, by simp [isSpace]⟩) ts.dropLast ++ []))) = .ok ts' ∧
        ts'.map content = ts.map content ∧
        ∀ {η : Type} (ctx : Context η) (schema : Schema η),
          Schema.parse ctx (String.ofList
            ([' '] ++ (respell (fun _ => ⟨['\r', '\n'], by simp, by simp [isSpace]⟩) ts.dropLast ++ []))) =
              .ok schema ↔
            Schema.parse ctx "[(1,2),/a\\/b/]" = .ok schema := by
  have cut : tokenize "[(1,2),/a\\/b/]" = .ok [⟨.lbracket, "[", 0⟩, ⟨.lparen, "(", 1⟩,
      ⟨.integer, "1", 2⟩, ⟨.comma, ",", 3⟩, ⟨.integer, "2", 4⟩, ⟨.rparen, ")", 5⟩, ⟨.comma, ",", 6⟩,
      ⟨.regex, "a\\/b", 7⟩, ⟨.rbracket, "]", 13⟩, ⟨.eof, "", 14⟩] := by
    rw [tokenize, tokenizeFrom_eq_collect (k := 9)]
    · rfl
    · rfl
    · decide
  exact ⟨_, cut, tokenize_respelled cut _ (by simp [isSpace]) (by simp)⟩

end MockSchema
