import MockSchema.Proofs.UsableNames

/-!
# Where errors point

Most errors about a schema text name a piece of it and give an offset in bytes. At that offset stands what they
name (`Schema.error_points`): a scanning error is about the first piece that is no token, every other error about
the token that was refused, or about a place inside of one. All offsets are counted from the beginning of the
text, over whatever was read before.
-/

namespace MockSchema

/-! ## What an error names -/

def LexError.offset : LexError → Nat
  | .unclosedString offset => offset
  | .unclosedPattern offset => offset
  | .malformedNumber _ _ offset => offset
  | .strayChar _ offset => offset

/-- The offset that an error gives. Some errors are about more than one place and give none. -/
def SchemaError.offset? : SchemaError → Option Nat
  | .lexical e => some e.offset
  | .unexpected _ found => some found.offset
  | .unknownName _ offset => some offset
  | .unreadableInteger _ offset => some offset
  | .unreadableFloat _ offset => some offset
  | _ => none

/-- A text that is not empty stands at the front of another one. -/
def Heads (text rest : List Char) : Prop := text ≠ [] ∧ text <+: rest

/-- What a scanning error names is at the front of a text. A quote that is not closed does not come again, and
of the slashes behind one that is not closed each follows a backslash. -/
def LexError.HeadsText (rest : List Char) : LexError → Prop
  | .strayChar c _ => rest.head? = some c
  | .malformedNumber lexeme _ _ => Heads lexeme.toList rest
  | .unclosedString _ => ∃ d r, (d = '"' ∨ d = '\x60') ∧ rest = d :: r ∧ d ∉ r
  | .unclosedPattern _ => ∃ r, rest = '/' :: r ∧
    ∀ before behind, r = before ++ '/' :: behind → ['\\'] <:+ before

/-- What an error names is at the front of a text: a token as it is spelled, or nothing at all where that is the
end; a name by itself, or the place in a template in which it is written. -/
def SchemaError.HeadsText (rest : List Char) : SchemaError → Prop
  | .lexical e => e.HeadsText rest
  | .unexpected _ found => if found.kind = .eof then rest = [] else Heads found.spelling rest
  | .unknownName name _ => isUsableName name = true ∧ Heads name.toList rest ∨
    ∃ written, '}' ∉ written ∧ Heads (TemplateCut.placeChars written) rest ∧
      name = String.ofList (Text.trim Unicode.isWhiteSpace written)
  | .unreadableInteger literal _ => Heads literal.toList rest
  | .unreadableFloat literal _ => Heads literal.toList rest
  | _ => True

/-! ## Scanning errors -/

namespace Token

theorem untilDelimiter_eq_none {delimiter : Char} {cs : List Char}
    (missing : untilDelimiter delimiter cs = none) : delimiter ∉ cs := by
  intro member
  obtain ⟨body, rest, rfl, free⟩ := List.eq_append_cons_of_mem member
  rw [untilDelimiter_append free] at missing
  cases missing

/-- Every slash follows a backslash, the first character what was before it. -/
theorem untilSlash_eq_none {previous : Char} {cs : List Char} (missing : untilSlash previous cs = none)
    (before behind : List Char) (split : cs = before ++ '/' :: behind) :
    ['\\'] <:+ previous :: before := by
  induction before generalizing previous cs with
  | nil =>
    subst split
    rw [List.nil_append, untilSlash] at missing
    split at missing
    · cases missing
    · next follows =>
      have backslash : previous = '\\' := by simpa using follows
      exact backslash ▸ List.suffix_rfl
  | cons c before ih =>
    subst split
    rw [List.cons_append, untilSlash] at missing
    split at missing
    · cases missing
    · exact (ih (Option.map_eq_none_iff.mp missing) rfl).trans (List.suffix_cons ..)

theorem delimited_eq_error {c : Cursor} {kind : TokenKind} {d : Char} {rest : List Char}
    {found : Option (List Char × List Char)} {missing e : LexError}
    (fails : (c.delimited kind d rest found missing).1 = .error e) : found = none ∧ e = missing := by
  unfold Cursor.delimited at fails
  split at fails
  · cases fails
  · cases fails
    exact ⟨rfl, rfl⟩

/-- A step that fails names what it fails at. -/
theorem scan_eq_error {c : Cursor} {e : LexError} (fails : (scan c).1 = .error e) :
    e.offset = c.offset ∧ e.HeadsText c.rest := by
  obtain ⟨rest, offset⟩ := c
  cases rest with
  | nil => cases fails
  | cons ch r =>
    simp only [scan] at fails
    split at fails
    · cases fails
    split at fails
    · cases fails
    split at fails
    · next first =>
      have whole := cutNumber_append (ch :: r)
      have nonempty := cutNumber_lexeme_pos r (by simpa using first)
      simp only [Cursor.number] at fails
      split at fails
      · cases fails
      · cases fails
        refine ⟨rfl, ?_⟩
        simp only [LexError.HeadsText, String.toList_ofList]
        exact ⟨List.ne_nil_of_length_pos nonempty, _, whole⟩
    split at fails
    · cases fails
    split at fails
    · next quote =>
      obtain ⟨missing, rfl⟩ := delimited_eq_error fails
      exact ⟨rfl, ch, r, .inl quote, rfl, quote ▸ untilDelimiter_eq_none missing⟩
    split at fails
    · next backtick =>
      obtain ⟨missing, rfl⟩ := delimited_eq_error fails
      exact ⟨rfl, ch, r, .inr backtick, rfl, backtick ▸ untilDelimiter_eq_none missing⟩
    split at fails
    · next slash =>
      obtain ⟨missing, rfl⟩ := delimited_eq_error fails
      refine ⟨rfl, r, slash ▸ rfl, fun before behind split => ?_⟩
      -- the slash that opens the pattern is no backslash, so there is a character behind it
      have follows := untilSlash_eq_none missing before behind split
      exact (List.suffix_cons_iff.mp follows).resolve_left (by simp)
    · cases fails
      exact ⟨rfl, rfl⟩

/-- Of a text that cannot be cut into tokens a step fails at some place. By induction along the cuts. -/
theorem tokenizeFrom_eq_error {c : Cursor} {e : LexError} (fails : tokenizeFrom c = .error e) :
    ∃ before rest, c.rest = before ++ rest ∧
      (scan ⟨rest, c.offset + Text.width before⟩).1 = .error e := by
  induction length : c.rest.length using Nat.strongRecOn generalizing c with
  | ind m ih =>
    subst length
    rw [tokenizeFrom] at fails
    split at fails
    · cases fails
    next unread =>
    split at fails
    · next e' given =>
      cases fails
      exact ⟨[], c.rest, rfl, given⟩
    split at fails
    · next e' later =>
      cases fails
      obtain ⟨whole, moved⟩ := piece_append c
      obtain ⟨before, rest, split, given⟩ := ih _ (scan_rest_length unread) later rfl
      refine ⟨c.piece ++ before, rest, ?_, ?_⟩
      · rw [List.append_assoc, ← split, whole]
      · rwa [Text.width_append, ← Nat.add_assoc, ← moved]
    · cases fails

/-! ## Places of tokens -/

/-- A token stands in the text at its offset, the end behind everything. -/
theorem Tiled.stands {offset : Nat} {ts : List Token} {cs : List Char} (tiled : Tiled offset ts cs)
    {t : Token} (member : t ∈ ts) :
    ∃ before after, cs = before ++ after ∧ t.offset = offset + Text.width before ∧
      if t.kind = .eof then after = [] else t.spelling <+: after := by
  induction tiled with
  | @last offset space blank =>
    cases List.mem_singleton.mp member
    exact ⟨space, [], by simp, rfl, rfl⟩
  | @token offset first ts space cs blank kind start rest ih =>
    rcases List.mem_cons.mp member with rfl | later
    · exact ⟨space, t.spelling ++ cs, rfl, start, by simp [kind.1]⟩
    · obtain ⟨before, after, rfl, place, stands⟩ := ih later
      refine ⟨space ++ (first.spelling ++ before), after, by simp, ?_, stands⟩
      rw [place, start, Text.width_append, Text.width_append]
      omega

end Token

/-! ## Refused tokens -/

variable {η : Type}

/-- An error about a token: the token itself, the name or number that it is, or a place in a template. -/
inductive SchemaError.Blames (t : Token) : SchemaError → Prop
  | unexpected (expected : Expectation) : Blames t (.unexpected expected t)
  | name (kind : t.kind = .ident) : Blames t (.unknownName t.literal t.offset)
  | place {before written behind : List Char} (kind : t.kind = .template)
      (inside : t.literal.toList = before ++ TemplateCut.placeChars written ++ behind)
      (closed : '}' ∉ written) :
      Blames t (.unknownName (String.ofList (Text.trim Unicode.isWhiteSpace written))
        (t.offset + 1 + Text.width before))
  | integer (kind : t.kind = .integer) : Blames t (.unreadableInteger t.literal t.offset)
  | float (kind : t.kind = .float) : Blames t (.unreadableFloat t.literal t.offset)
  | other {e : SchemaError} (nowhere : e.offset? = none) : Blames t e

open SchemaError

theorem Registry.Refuses.blames {r : Registry η} {t : Token} {e : SchemaError} (kind : t.kind = .template)
    (refused : r.Refuses t.literal (t.offset + 1) t.literal.toList e) : e.Blames t := by
  obtain ⟨cut, rest, -, split, -, -, bad⟩ := refused
  rcases bad with ⟨-, rfl⟩ | ⟨written, behind, rfl, closed, -, rfl⟩
  · exact .other rfl
  · have inside : t.literal.toList = cut.chars ++ TemplateCut.placeChars written ++ behind := by
      rw [split, TemplateCut.append_place]
    exact .place kind inside closed

namespace Reading

variable {ctx : Context η} {t : Token} {e : SchemaError}

theorem refuse_blames {α : Type} {expected : Expectation}
    (fails : (refuse expected t : Except SchemaError α) = .error e) : e.Blames t := by
  cases fails
  exact .unexpected expected

theorem readInteger_blames (kind : t.kind = .integer) (fails : readInteger t = .error e) :
    e.Blames t := by
  unfold readInteger at fails
  split at fails
  · cases fails
  · cases fails
    exact .integer kind

theorem readFloat_blames (kind : t.kind = .float) (fails : readFloat t = .error e) : e.Blames t := by
  unfold readFloat at fails
  split at fails
  · split at fails
    · cases fails
    · cases fails
      exact .float kind
  · cases fails
    exact .float kind

theorem readPattern_blames {settings : Pattern.Settings} (fails : readPattern settings t = .error e) :
    e.Blames t := by
  unfold readPattern at fails
  dsimp only at fails
  split at fails
  · cases fails
  · cases fails
    exact .other rfl

theorem resolve_blames (kind : t.kind = .ident)
    (fails : ctx.registry.resolve t.literal t.offset = .error e) : e.Blames t := by
  unfold Registry.resolve at fails
  split at fails
  · cases fails
  · cases fails
    exact .name kind

theorem leaf?_blames (fails : leaf? ctx t = some (.error e)) : e.Blames t := by
  unfold leaf? at fails
  split at fails
  · next kind => exact resolve_blames kind ((map_eq_error_iff ..).mp (Option.some.inj fails))
  · next kind => exact readInteger_blames kind ((map_eq_error_iff ..).mp (Option.some.inj fails))
  · next kind => exact readFloat_blames kind ((map_eq_error_iff ..).mp (Option.some.inj fails))
  · cases fails
  · next kind =>
    have refused := (map_eq_error_iff ..).mp (Option.some.inj fails)
    exact ((ctx.registry.template_eq_error_iff ..).mp refused).blames kind
  · exact readPattern_blames ((map_eq_error_iff ..).mp (Option.some.inj fails))
  all_goals cases fails

theorem takeValue_blames {opened : List (OpenNode η)} (fails : takeValue ctx opened t = .error e) :
    e.Blames t := by
  unfold takeValue at fails
  split at fails
  · cases fails
  · cases fails
  · cases fails
  · split at fails
    · next node leaf =>
      have refused := (map_eq_error_iff ..).mp fails
      exact leaf?_blames (refused ▸ leaf)
    · exact refuse_blames fails

theorem takeKey_blames {members : List (String × Node η)} {opened : List (OpenNode η)}
    (fails : takeKey members opened t = .error e) : e.Blames t := by
  unfold takeKey at fails
  split at fails
  · cases fails
  · exact refuse_blames fails

theorem takeKind_blames {kind : TokenKind} {reading : Reading η}
    (fails : takeKind kind t reading = .error e) : e.Blames t := by
  unfold takeKind at fails
  split at fails
  · cases fails
  · exact refuse_blames fails

theorem completeRange_blames {use : RangeUse} {opened : List (OpenNode η)} {r : Range}
    (fails : completeRange use opened r = .error e) : e.Blames t := by
  unfold completeRange at fails
  split at fails
  · cases fails
  · split at fails
    · cases fails
      exact .other rfl
    · cases fails

/-- Whatever is expected, an error is about the token that was taken. -/
theorem step_blames {reading : Reading η} (fails : reading.step ctx t = .error e) : e.Blames t := by
  obtain ⟨next, opened⟩ := reading
  cases next with
  | start =>
    simp only [step] at fails
    split at fails
    · cases fails
      exact .other rfl
    · exact takeValue_blames fails
  | value => exact takeValue_blames fails
  | keyOrBrace =>
    simp only [step] at fails
    split at fails
    · cases fails
    · exact takeKey_blames fails
  | key => exact takeKey_blames fails
  | colon => exact takeKind_blames fails
  | commaOrBrace =>
    simp only [step] at fails
    split_ifs at fails
    exact refuse_blames fails
  | elementOrBracket =>
    simp only [step] at fails
    split_ifs at fails
    exact takeValue_blames fails
  | rangeMin =>
    simp only [step] at fails
    split at fails
    · next kind => exact readInteger_blames kind ((map_eq_error_iff ..).mp fails)
    · exact refuse_blames fails
  | rangeSeparator =>
    simp only [step] at fails
    split_ifs at fails
    · exact completeRange_blames fails
    · exact refuse_blames fails
  | rangeMax =>
    simp only [step] at fails
    split at fails
    · next kind =>
      rcases (bind_eq_error_iff ..).mp fails with unreadable | ⟨max, -, reversed⟩
      · exact readInteger_blames kind unreadable
      · split at reversed
        · cases reversed
        · cases reversed
          exact .other rfl
    · exact refuse_blames fails
  | rangeClose =>
    simp only [step] at fails
    split at fails
    · exact completeRange_blames fails
    · exact refuse_blames fails
  | lengthComma => exact takeKind_blames fails
  | bracket =>
    simp only [step] at fails
    split at fails
    · cases fails
    · exact refuse_blames fails
  | stop => exact takeKind_blames fails

/-- A list of tokens with an end is refused for one of its tokens. -/
theorem run_blames {last : Token} {reading : Reading η} {ts : List Token}
    (ends : ∃ t ∈ ts, t.kind = .eof) (fails : run ctx last reading ts = .error e) :
    ∃ t ∈ ts, e.Blames t := by
  induction ts generalizing reading with
  | nil => simp at ends
  | cons t rest ih =>
    rcases (bind_eq_error_iff ..).mp fails with refused | ⟨reading, -, later⟩
    · exact ⟨t, List.mem_cons_self, step_blames refused⟩
    · split at later
      · cases later
      · next inner =>
        obtain ⟨u, member, eof⟩ := ends
        have behind := (List.mem_cons.mp member).resolve_left fun same => inner (same ▸ eof)
        obtain ⟨v, listed, blamed⟩ := ih ⟨u, behind, eof⟩ later
        exact ⟨v, List.mem_cons_of_mem t listed, blamed⟩

end Reading

theorem ofTokens_blames {ctx : Context η} {ts : List Token} {e : SchemaError}
    (ends : ∃ t ∈ ts, t.kind = .eof) (fails : Schema.ofTokens ctx ts = .error e) :
    ∃ t ∈ ts, e.Blames t := by
  rcases (bind_eq_error_iff ..).mp fails with refused | ⟨reading, -, made⟩
  · exact Reading.run_blames ends refused
  · split at made <;> cases made

/-! ## Whole texts -/

/-- At the offset the text goes on with what the error names. -/
def SchemaError.PointsInto (e : SchemaError) (offset : Nat) (source : String) : Prop :=
  ∃ before after, source.toList = before ++ after ∧ offset = (String.ofList before).utf8ByteSize ∧
    e.HeadsText after

namespace Token

theorem spelling_of_bare {t : Token} (bare : t.kind.delimiter? = none) :
    t.spelling = t.literal.toList := by
  unfold spelling
  rw [bare]

variable {source : String} {ts : List Token} {t : Token}

/-- A token that is not the end is no empty text. -/
theorem spelling_ne_nil (cut : tokenize source = .ok ts) (member : t ∈ ts) (inner : t.kind ≠ .eof) :
    t.spelling ≠ [] := by
  obtain ⟨-, piece, rest, takes⟩ := taken_of_mem cut t member inner
  exact takes.spelled.2.1 ▸ takes.ne_nil

/-- A token stands where its offset says. -/
theorem stands_of_mem (cut : tokenize source = .ok ts) (member : t ∈ ts) :
    ∃ before after, source.toList = before ++ after ∧ t.offset = (String.ofList before).utf8ByteSize ∧
      if t.kind = .eof then after = [] else Heads t.spelling after := by
  obtain ⟨before, after, split, place, stands⟩ := (tokenizeFrom_tiled _ cut).stands member
  refine ⟨before, after, split, ?_, ?_⟩
  · rw [place, width_eq_utf8ByteSize, Cursor.start, Nat.zero_add]
  · split at stands
    · next eof => rwa [if_pos eof]
    · next inner =>
      rw [if_neg inner]
      exact ⟨spelling_ne_nil cut member inner, stands⟩

end Token

/-- An error about a token of a text points at what it names. -/
theorem SchemaError.Blames.pointsInto {source : String} {ts : List Token} {t : Token}
    {e : SchemaError} {offset : Nat} (cut : Token.tokenize source = .ok ts) (member : t ∈ ts)
    (blames : e.Blames t) (placed : e.offset? = some offset) : e.PointsInto offset source := by
  obtain ⟨before, after, split, place, stands⟩ := Token.stands_of_mem cut member
  -- a token that is spelled as its literal stands at its offset
  have bare (kind : t.kind.delimiter? = none) (inner : t.kind ≠ .eof) : Heads t.literal.toList after := by
    rwa [if_neg inner, Token.spelling_of_bare kind] at stands
  cases blames with
  | unexpected expected =>
    cases placed
    exact ⟨before, after, split, place, stands⟩
  | name kind =>
    cases placed
    have usable := Token.isUsableName_of_mem cut member kind
    exact ⟨before, after, split, place, .inl ⟨usable, bare (by rw [kind]; rfl) (by rw [kind]; decide)⟩⟩
  | @place text written behind kind inside closed =>
    cases placed
    have spelled : t.spelling = '\x60' :: t.literal.toList ++ ['\x60'] := by
      unfold Token.spelling
      rw [kind]
      rfl
    rw [if_neg (by rw [kind]; decide), spelled, inside] at stands
    obtain ⟨-, rest, rfl⟩ := stands
    refine ⟨before ++ '\x60' :: text, TemplateCut.placeChars written ++ (behind ++ '\x60' :: rest), ?_, ?_,
      .inr ⟨written, closed, ⟨List.cons_ne_nil _ _, List.prefix_append ..⟩, rfl⟩⟩
    · rw [split]
      simp
    · rw [place, ← Token.width_eq_utf8ByteSize, ← Token.width_eq_utf8ByteSize, Text.width_append,
        Text.width_cons, ← Nat.add_assoc]
      rfl
  | integer kind =>
    cases placed
    exact ⟨before, after, split, place, bare (by rw [kind]; rfl) (by rw [kind]; decide)⟩
  | float kind =>
    cases placed
    exact ⟨before, after, split, place, bare (by rw [kind]; rfl) (by rw [kind]; decide)⟩
  | other nowhere =>
    rw [nowhere] at placed
    cases placed

/-- Whatever a text is refused for, an offset in the error is that of a character of the text, or of its end, and
there the text goes on with what the error names. -/
theorem Schema.error_points {ctx : Context η} {source : String} {e : SchemaError} {offset : Nat}
    (refused : Schema.parse ctx source = .error e) (placed : e.offset? = some offset) :
    e.PointsInto offset source := by
  unfold Schema.parse at refused
  split at refused
  · next ts cut =>
    obtain ⟨before, rfl, -⟩ := ((Token.scanning_tiles source).tiled ts cut).2
    obtain ⟨t, member, blames⟩ := ofTokens_blames ⟨_, List.mem_append_right before List.mem_cons_self, rfl⟩ refused
    exact blames.pointsInto cut member placed
  · next lexical fails =>
    cases refused
    cases placed
    obtain ⟨before, rest, split, given⟩ := Token.tokenizeFrom_eq_error fails
    obtain ⟨place, heads⟩ := Token.scan_eq_error given
    refine ⟨before, rest, split, ?_, heads⟩
    rw [place, Token.width_eq_utf8ByteSize, Token.Cursor.start, Nat.zero_add]

/-- An unknown name in a template, behind characters of two bytes and a dollar sign that is text. -/
theorem Schema.error_points_template :
    Schema.parse (⟨.empty, .initial⟩ : Context Generator) "\x7b\"é\": \x60é$$\x7b n \x7d\x60\x7d" =
        .error (.unknownName "n" 11) ∧
      SchemaError.PointsInto (.unknownName "n" 11) 11 "\x7b\"é\": \x60é$$\x7b n \x7d\x60\x7d" := by
  have cut : Token.tokenize "\x7b\"é\": \x60é$$\x7b n \x7d\x60\x7d" = .ok [⟨.lbrace, "\x7b", 0⟩, ⟨.string, "é", 1⟩,
      ⟨.colon, ":", 5⟩, ⟨.template, "é$$\x7b n \x7d", 7⟩, ⟨.rbrace, "\x7d", 18⟩, ⟨.eof, "", 19⟩] := by
    rw [Token.tokenize, Token.tokenizeFrom_eq_collect (k := 6)]
    · rfl
    · rfl
    · decide
  have refused : Schema.parse (⟨.empty, .initial⟩ : Context Generator)
      "\x7b\"é\": \x60é$$\x7b n \x7d\x60\x7d" = .error (.unknownName "n" 11) := by
    rw [Schema.parse, cut]
    rfl
  exact ⟨refused, Schema.error_points refused rfl⟩

end MockSchema
