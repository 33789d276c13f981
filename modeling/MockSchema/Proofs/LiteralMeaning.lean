import MockSchema.Proofs.PatternLanguage
import MockSchema.Proofs.PatternLiteral
import MockSchema.Proofs.PatternSimulation
import MockSchema.Proofs.Scanning

/-!
# What literals mean

In a literal, `\/` is the escape of a slash, and a reader of patterns takes it for a slash as well. So a literal
whose slashes are all escaped means the same before and after it is unescaped (`readPattern_same_language`). A
slash behind an escaped backslash is not escaped, yet it does not end the literal: unescaping takes the second
backslash away, and the pattern loses the first one (`readPattern_escaped_backslash`).
-/

namespace MockSchema

namespace Token

/-- The character in front of the slash that ends a text is no backslash. -/
theorem getLastD_of_untilSlash {previous : Char} {cs body rest : List Char}
    (closed : untilSlash previous cs = some (body, rest)) : body.getLastD previous ≠ '\\' := by
  induction cs generalizing previous body with
  | nil => cases closed
  | cons c r ih =>
    rw [untilSlash] at closed
    split at closed
    · next ends =>
      cases closed
      exact ends.2
    · obtain ⟨⟨behind, rest'⟩, found, same⟩ := Option.map_eq_some_iff.mp closed
      cases same
      rw [List.getLastD_cons]
      exact ih found

/-- A token for a pattern stands between slashes. -/
theorem Takes.untilSlash_eq_some {offset : Nat} {piece rest : List Char} {t : Token}
    (h : Takes offset piece rest (.ok t)) (kind : t.kind = .regex) :
    untilSlash '/' (t.literal.toList ++ '/' :: rest) = some (t.literal.toList, rest) := by
  cases h with
  | pattern closed => rwa [String.toList_ofList]
  | @word c r _ first others =>
    have bare := (keyword?_kind (c :: r)).1
    rw [show (TokenKind.keyword? (c :: r)).getD .ident = .regex from kind] at bare
    cases bare
  | number first cut =>
    cases kind
    rcases cutNumber_kind (congrArg NumberPiece.verdict cut) with same | same <;> cases same
  | mark known =>
    cases kind
    cases (punctuation?_eq_some known).1
  | space | string | template => cases kind

/-- A literal does not end in a backslash. -/
theorem getLast?_of_regex {source : String} {ts : List Token} {t : Token} (cut : tokenize source = .ok ts)
    (member : t ∈ ts) (kind : t.kind = .regex) : t.literal.toList.getLast? ≠ some '\\' := by
  have inner : t.kind ≠ .eof := by
    rw [kind]
    decide
  obtain ⟨-, piece, rest, takes⟩ := taken_of_mem cut t member inner
  have last := getLastD_of_untilSlash (takes.untilSlash_eq_some kind)
  intro backslash
  rw [List.getLastD_eq_getLast?, backslash] at last
  exact last rfl

end Token

namespace Reading

/-- A literal that is a pattern itself and has no slash but escaped ones compiles, and stands for the same
expression, so for the same texts, whatever the conditions on places ask for. -/
theorem readPattern_same_language {source : String} {ts : List Token} {t : Token} {e : Pattern.Expr}
    (cut : Token.tokenize source = .ok ts) (member : t ∈ ts) (kind : t.kind = .regex)
    (valid : Pattern.compile t.literal.toList = .ok e) (escaped : SlashesEscaped t.literal.toList)
    (settings : Pattern.Settings) :
    ∃ p, readPattern settings t = .ok p ∧ p.expr = e ∧ p.expr.language = e.language ∧
      ∀ holds text, p.expr.FullyMatches holds text ↔ e.FullyMatches holds text := by
  have pieces := unescapes_unescapeSlashes escaped (Token.getLast?_of_regex cut member kind)
  have compiled := Pattern.compile_again pieces valid
  refine ⟨⟨String.ofList (unescapeSlashes t.literal.toList), e, settings⟩, ?_, rfl, rfl, fun _ _ => Iff.rfl⟩
  simp only [readPattern, Pattern.ofText, String.toList_ofList, compiled]
  rfl

/-- A slash in a group that is repeated. -/
theorem readPattern_same_language_group :
    let t : Token := ⟨.regex, "(?:\\/a)+", 0⟩
    let e : Pattern.Expr := .repetition .atLeastOne true (.literal ['/', 'a'])
    Token.tokenize "/(?:\\/a)+/" = .ok [t, ⟨.eof, "", 10⟩] ∧ Pattern.compile t.literal.toList = .ok e ∧
      SlashesEscaped t.literal.toList ∧
      ∃ p, readPattern .initial t = .ok p ∧ p.expr = e ∧ p.expr.language = e.language ∧
        ∀ holds text, p.expr.FullyMatches holds text ↔ e.FullyMatches holds text := by
  intro t e
  have cut : Token.tokenize "/(?:\\/a)+/" = .ok [t, ⟨.eof, "", 10⟩] :=
    Token.tokenize_between "(?:\\/a)+" rfl
  have valid : Pattern.compile "(?:\\/a)+".toList = .ok (.repetition .atLeastOne true (.literal ['/', 'a'])) := rfl
  have escaped : SlashesEscaped t.literal.toList := by decide
  exact ⟨cut, valid, escaped, readPattern_same_language cut List.mem_cons_self rfl valid escaped .initial⟩

/-- Behind an escaped backslash a slash is not escaped. The literal is a pattern for a backslash and a slash, but
what is compiled is the pattern for the slash alone. -/
theorem readPattern_escaped_backslash :
    ∃ t e p, Token.tokenize "/\\\\/x/" = .ok [t, ⟨.eof, "", 6⟩] ∧ t.kind = .regex ∧
      Pattern.compile t.literal.toList = .ok e ∧ readPattern .initial t = .ok p ∧
      e.language = {"\\/x".toList} ∧ p.expr.language = {"/x".toList} ∧ p.expr.language ≠ e.language := by
  have cut : Token.tokenize "/\\\\/x/" = .ok [⟨.regex, "\\\\/x", 0⟩, ⟨.eof, "", 6⟩] :=
    Token.tokenize_between "\\\\/x" rfl
  have lost : (⟨"\\/x", .literal ['/', 'x'], .initial⟩ : Pattern).expr.language ≠
      (Pattern.Expr.literal ['\\', '/', 'x']).language := by
    intro same
    have inside : ['/', 'x'] ∈ (Pattern.Expr.literal ['\\', '/', 'x']).language := same ▸ rfl
    cases inside
  exact ⟨_, .literal ['\\', '/', 'x'], ⟨"\\/x", .literal ['/', 'x'], .initial⟩, cut, rfl, rfl, rfl, rfl, rfl, lost⟩

end Reading

end MockSchema
