import MockSchema.Proofs.Reading
import MockSchema.Proofs.Scanning

/-!
# The end of the tokens

The first end token is a wall: whatever stands behind it, the schema or the error is the one of the tokens up to
it. A list of tokens without an end is read as if the end stood behind it, at the offset where its last token ends
(`Schema.ofTokens_wall`). Neither the separators in objects and ranges nor the place of the last token of the
whole list change that: at an end token a reader is either done or refuses it (`Reading.step_of_eof`), so it goes
no further, and the end that it supplies is looked at only if there is no other (`Reading.run_append_end`).
-/

namespace MockSchema

/-! ## What a message shows -/

/-- A token as messages show it: where the kind says it all, the text does not count. -/
def Token.shown (t : Token) : Token := if t.kind.hasContent then t else { t with literal := "" }

/-- An error as messages show it. -/
def SchemaError.shown : SchemaError → SchemaError
  | .unexpected expected found => .unexpected expected found.shown
  | e => e

theorem Token.describe_shown (t : Token) : t.shown.describe = t.describe := by
  unfold shown describe
  by_cases content : t.kind.hasContent <;> simp [content]

theorem Token.offset_shown (t : Token) : t.shown.offset = t.offset := by
  unfold shown
  split <;> rfl

/-- Nothing that a message shows is left out. -/
theorem SchemaError.message_shown (e : SchemaError) : e.shown.message = e.message := by
  cases e with
  | unexpected expected found =>
    have written (t : Token) : message (.unexpected expected t) =
        s!"expected {expected.text}, got {t.describe} at byte {t.offset}" := rfl
    rw [shown, written, written, Token.describe_shown, Token.offset_shown]
  | _ => exact congrArg message rfl

variable {η : Type}

/-! ## Reading up to the end -/

/-- What is missing where the end comes too early. -/
def Next.missing : Next η → Expectation
  | .start | .value | .elementOrBracket => .value
  | .keyOrBrace | .key _ => .kind .string
  | .colon _ _ => .kind .colon
  | .commaOrBrace _ => .commaOrBrace
  | .rangeMin _ | .rangeMax _ _ => .kind .integer
  | .rangeSeparator _ _ => .commaOrParen
  | .rangeClose _ _ => .kind .rparen
  | .lengthComma _ => .kind .comma
  | .bracket _ _ => .kind .rbracket
  | .stop _ => .kind .eof

namespace Reading

/-- What becomes of a reading at an end token. -/
def atEnd (reading : Reading η) (t : Token) : Except SchemaError (Reading η) :=
  match reading.next with
  | .start => .error .empty
  | .stop _ => .ok reading
  | next => refuse next.missing t

/-- An end token is refused, or it ends the reading; it never leads on. -/
theorem step_of_eof (ctx : Context η) (reading : Reading η) {t : Token} (eof : t.kind = .eof) :
    reading.step ctx t = reading.atEnd t := by
  obtain ⟨next, opened⟩ := reading
  obtain ⟨kind, literal, offset⟩ := t
  cases eof
  cases next <;> rfl

variable {e e' last : Token}

/-- Reading stops at the first end token, whatever stands behind it and whatever end is supplied. By induction on
the tokens in front of it. -/
theorem run_append_end (ctx : Context η) (eof : e.kind = .eof) (ts us : List Token)
    (reading : Reading η) : run ctx last reading (ts ++ e :: us) = run ctx e reading ts := by
  induction ts generalizing reading with
  | nil =>
    rw [List.nil_append, run, run]
    simp only [if_pos eof]
    exact bind_pure _
  | cons t ts ih =>
    rw [List.cons_append, run, run]
    simp only [ih]

/-- Of the end that is supplied only the kind and the offset are shown. -/
theorem run_shown (ctx : Context η) (eof : e.kind = .eof) (eof' : e'.kind = .eof)
    (place : e.offset = e'.offset) (ts : List Token) (reading : Reading η) :
    (run ctx e reading ts).mapError SchemaError.shown =
      (run ctx e' reading ts).mapError SchemaError.shown := by
  induction ts generalizing reading with
  | nil =>
    have same : e.shown = e'.shown := by
      obtain ⟨kind, literal, offset⟩ := e
      obtain ⟨kind', literal', offset'⟩ := e'
      cases eof
      cases eof'
      cases place
      rfl
    rw [run, run, step_of_eof ctx reading eof, step_of_eof ctx reading eof']
    unfold atEnd refuse
    split
    · rfl
    · rfl
    · simp only [Except.mapError, SchemaError.shown, same]
  | cons t ts ih =>
    rw [run, run]
    cases reading.step ctx t with
    | error fault => rfl
    | ok next =>
      simp only [bind, Except.bind]
      split
      · rfl
      · exact ih next

end Reading

/-! ## Whole lists -/

/-- The offset in bytes at which the last of some tokens ends, zero where there is none. -/
def Token.offsetBehind (ts : List Token) : Nat :=
  match ts.getLast? with
  | some t => t.offset + t.literal.utf8ByteSize
  | none => 0

theorem Token.endOf_eq (ts : List Token) : Token.endOf ts = ⟨.eof, "", Token.offsetBehind ts⟩ := by
  unfold endOf offsetBehind
  cases ts.getLast? with
  | none => rfl
  | some t => simp only [width_eq_utf8ByteSize, String.ofList_toList]

/-- Two steps whose errors are shown alike, with the same step after each. -/
theorem mapError_bind {ε ε' α β : Type} {shown : ε → ε'} {x y : Except ε α}
    (same : x.mapError shown = y.mapError shown) (next : α → Except ε β) :
    (x >>= next).mapError shown = (y >>= next).mapError shown := by
  cases x <;> cases y <;> simp_all [Except.mapError, bind, Except.bind]

namespace Schema

/-- The schema of a whole reading. -/
def ofReading (reading : Reading η) : Except SchemaError (Schema η) :=
  match reading.next with
  | .stop root => .ok ⟨some root⟩
  | _ => .ok .empty

theorem ofTokens_eq (ctx : Context η) (ts : List Token) :
    ofTokens ctx ts = Reading.run ctx (Token.endOf ts) Reading.initial ts >>= ofReading := rfl

/-- With an end token in the list, what is behind the first one does not count. -/
theorem ofTokens_append_end (ctx : Context η) {e : Token} (eof : e.kind = .eof) (ts us : List Token) :
    ofTokens ctx (ts ++ e :: us) = Reading.run ctx e Reading.initial ts >>= ofReading := by
  rw [ofTokens_eq, Reading.run_append_end ctx eof]

/-- What stands behind an end token has no effect on the schema or the error, and tokens are read as if the end
stood behind them, where the last one ends. Of that end no message shows more than the offset. -/
theorem ofTokens_wall (ctx : Context η) (ts : List Token) :
    (∀ (e : Token) (us : List Token), e.kind = .eof →
      ofTokens ctx (ts ++ [e] ++ us) = ofTokens ctx (ts ++ [e])) ∧
    ofTokens ctx ts = ofTokens ctx (ts ++ [⟨.eof, "", Token.offsetBehind ts⟩]) ∧
    ∀ e : Token, e.kind = .eof → e.offset = Token.offsetBehind ts →
      (ofTokens ctx (ts ++ [e])).mapError SchemaError.shown =
        (ofTokens ctx ts).mapError SchemaError.shown := by
  have supplied : ofTokens ctx ts = ofTokens ctx (ts ++ [⟨.eof, "", Token.offsetBehind ts⟩]) := by
    rw [ofTokens_append_end ctx rfl, ofTokens_eq, Token.endOf_eq]
  refine ⟨fun e us eof => ?_, supplied, fun e eof place => ?_⟩
  · rw [List.append_assoc, List.singleton_append, ofTokens_append_end ctx eof,
      ofTokens_append_end ctx eof]
  · rw [supplied, ofTokens_append_end ctx eof, ofTokens_append_end ctx rfl]
    exact mapError_bind (Reading.run_shown ctx eof rfl place ts _) ofReading

/-- An object that ends where a comma or a brace is missing: the brace behind the end does not close it, and
without an end in the list it ends at the same place. -/
theorem ofTokens_wall_separator :
    let ctx : Context Unit := ⟨.empty, .initial⟩
    let ts : List Token := [⟨.lbrace, "\x7b", 0⟩, ⟨.string, "a", 1⟩, ⟨.colon, ":", 4⟩, ⟨.nullWord, "null", 5⟩]
    let e : Token := ⟨.eof, "end", 9⟩
    let us : List Token := [⟨.rbrace, "\x7d", 9⟩, ⟨.eof, "", 10⟩]
    ofTokens ctx (ts ++ [e] ++ us) = ofTokens ctx (ts ++ [e]) ∧
      ofTokens ctx (ts ++ [e] ++ us) = .error (.unexpected .commaOrBrace e) ∧
      ofTokens ctx ts = .error (.unexpected .commaOrBrace ⟨.eof, "", 9⟩) ∧
      (ofTokens ctx (ts ++ [e])).mapError SchemaError.shown =
        (ofTokens ctx ts).mapError SchemaError.shown := by
  intro ctx ts e us
  obtain ⟨wall, -, alike⟩ := ofTokens_wall ctx ts
  exact ⟨wall e us rfl, rfl, rfl, alike e rfl rfl⟩

end Schema

end MockSchema
