import MockSchema.Generator.OfYaml
import MockSchema.Proofs.Draws
import MockSchema.Proofs.Reading
import MockSchema.Proofs.Rescanning
import MockSchema.Proofs.Unescaping
import MockSchema.Schema.Generate

/-!
# Patterns between slashes

A pattern is written as a literal by putting a backslash in front of each of its slashes (`escapeSlashes`). Unless
the pattern ends in a backslash, the scanner finds the end of the literal where it was put (`untilSlash_escape`),
and the parser gets back the pattern whatever backslashes are in it (`unescape_escape`). So the literal and a
definition with the same pattern and settings are one generator (`literal_defines`).
-/

namespace MockSchema

/-! ## Writing literals -/

/-- The text of a literal: every slash of the pattern behind a backslash. -/
def escapeSlashes : List Char → List Char
  | [] => []
  | c :: r => if c = '/' then '\\' :: '/' :: escapeSlashes r else c :: escapeSlashes r

@[simp] theorem escapeSlashes_nil : escapeSlashes [] = [] := rfl

@[simp] theorem escapeSlashes_slash (r : List Char) :
    escapeSlashes ('/' :: r) = '\\' :: '/' :: escapeSlashes r := if_pos rfl

theorem escapeSlashes_cons {c : Char} (other : c ≠ '/') (r : List Char) :
    escapeSlashes (c :: r) = c :: escapeSlashes r := if_neg other

/-- No escaped text begins with a slash. -/
theorem head?_escapeSlashes (cs : List Char) : (escapeSlashes cs).head? ≠ some '/' := by
  cases cs with
  | nil => exact nofun
  | cons c r =>
    by_cases slash : c = '/'
    · rw [slash, escapeSlashes_slash]
      exact nofun
    · rw [escapeSlashes_cons slash, List.head?_cons]
      exact fun same => slash (Option.some.inj same)

namespace Reading

/-- Escaping is undone, also behind backslashes of the pattern itself. -/
theorem unescape_escape (cs : List Char) : unescapeSlashes (escapeSlashes cs) = cs := by
  induction cs with
  | nil => rfl
  | cons c r ih =>
    by_cases slash : c = '/'
    · rw [slash, escapeSlashes_slash, unescapeSlashes, ih]
    · rw [escapeSlashes_cons slash, unescapeSlashes_cons fun _ => head?_escapeSlashes r, ih]

/-- The parser compiles the pattern itself. -/
theorem readPattern_escape (settings : Pattern.Settings) (p : String) (offset : Nat) :
    readPattern settings ⟨.regex, String.ofList (escapeSlashes p.toList), offset⟩ =
      (Pattern.ofText p settings).mapError
        (.unreadablePattern (String.ofList (escapeSlashes p.toList)) p) := by
  simp only [readPattern, String.toList_ofList, unescape_escape, String.ofList_toList]
  cases Pattern.ofText p settings <;> rfl

end Reading

/-! ## Scanning literals -/

namespace Token

/-- The first slash that does not follow a backslash is the one behind the escaped text. -/
theorem untilSlash_escape {previous : Char} {cs : List Char} (last : cs.getLastD previous ≠ '\\')
    (rest : List Char) :
    untilSlash previous (escapeSlashes cs ++ '/' :: rest) = some (escapeSlashes cs, rest) := by
  induction cs generalizing previous with
  | nil => exact if_pos ⟨rfl, last⟩
  | cons c r ih =>
    rw [List.getLastD_cons] at last
    by_cases slash : c = '/'
    · subst slash
      simp [untilSlash, ih last]
    · rw [escapeSlashes_cons slash]
      simp [untilSlash, slash, ih last]

/-- What stands between two slashes, with no end of a literal before the second, is one token. -/
theorem tokenize_between (literal : String)
    (ends : untilSlash '/' (literal.toList ++ ['/']) = some (literal.toList, [])) :
    let source := "/" ++ literal ++ "/"
    tokenize source = .ok [⟨.regex, literal, 0⟩, ⟨.eof, "", source.utf8ByteSize⟩] := by
  intro source
  have text : source.toList = '/' :: literal.toList ++ ['/'] := by simp [source]
  have taken : Takes 0 ('/' :: literal.toList ++ ['/']) [] (.ok ⟨.regex, String.ofList literal.toList, 0⟩) :=
    .pattern ends
  have alone := taken.alone nofun
  rw [← text, String.ofList_toList] at alone
  rwa [width_eq_utf8ByteSize, String.ofList_toList] at alone

/-- A literal is one token, whose text is the escaped pattern. -/
theorem tokenize_literal {p : String} (last : p.toList.getLast? ≠ some '\\') :
    let literal := String.ofList (escapeSlashes p.toList)
    let source := "/" ++ literal ++ "/"
    tokenize source = .ok [⟨.regex, literal, 0⟩, ⟨.eof, "", source.utf8ByteSize⟩] := by
  intro literal
  have ends : p.toList.getLastD '/' ≠ '\\' := by
    rw [List.getLastD_eq_getLast?]
    cases written : p.toList.getLast? with
    | none => decide
    | some c => exact fun same => last (written.trans (congrArg some same))
  refine tokenize_between literal ?_
  rw [String.toList_ofList]
  exact untilSlash_escape ends []

end Token

/-! ## Literals as generators -/

/-- A token for a pattern is a schema by itself. -/
theorem Schema.ofTokens_pattern {η : Type} (ctx : Context η) (t : Token) (kind : t.kind = .regex) (offset : Nat) :
    ofTokens ctx [t, ⟨.eof, "", offset⟩] =
      (Reading.readPattern ctx.settings t).map fun q => ⟨some (.pattern q)⟩ := by
  have leaf : Reading.leaf? ctx t = some do return .pattern (← Reading.readPattern ctx.settings t) := by
    simp only [Reading.leaf?, kind]
  have value : Reading.takeValue ctx [] t =
      (Reading.readPattern ctx.settings t).map fun q => ⟨.stop (.pattern q), []⟩ := by
    simp only [Reading.takeValue, kind, leaf]
    cases Reading.readPattern ctx.settings t <;> rfl
  simp only [ofTokens, Reading.run, Reading.initial, Reading.step, kind, value]
  cases Reading.readPattern ctx.settings t <;> rfl

/-- The fields of a definition with a pattern; settings may be left out. -/
def Definition.patternFields (p : String) (maxRepeat : Option UInt32) (probability : Option Binary64) :
    Definition.Fields :=
  .named ((.string "pattern", .string p) ::
    (maxRepeat.map fun n => (.string "max_repeat", .number (.int n.toNat))).toList ++
    (probability.map fun x => (.string "optional_probability", .number (.float x))).toList)

theorem Definition.readCount_toNat (n : UInt32) : readCount (some (.number (.int n.toNat))) = some n := by
  have small : (n.toNat : Int) < UInt32.size := Int.ofNat_lt.mpr n.toNat_lt
  rw [readCount, if_pos ⟨Int.natCast_nonneg _, small⟩, Int.toNat_natCast, UInt32.ofNat_toNat]

theorem Definition.readOptional_count (maxRepeat : Option UInt32) :
    readOptional readCount (maxRepeat.map fun n => .number (.int n.toNat)) = some maxRepeat := by
  cases maxRepeat with
  | none => rfl
  | some n =>
    rw [Option.map_some, readOptional, readCount_toNat, Option.map_some]
    exact nofun

theorem Definition.readOptional_float (probability : Option Binary64) :
    readOptional readFloat (probability.map fun x => .number (.float x)) = some probability := by
  cases probability <;> rfl

/-- The fields are read as what they were written for. -/
theorem Definition.ofFields?_patternFields (p : String) (maxRepeat : Option UInt32)
    (probability : Option Binary64) :
    ofFields? "regex" (patternFields p maxRepeat probability) = some (.regex p maxRepeat probability) := by
  have read (f : Fields) : ofFields? "regex" f = (do
      let slots ← f.slots ["pattern", "max_repeat", "optional_probability"]
      return .regex (← readText slots[0]?.join) (← readOptional readCount slots[1]?.join)
        (← readOptional readFloat slots[2]?.join)) := rfl
  have placed : (patternFields p maxRepeat probability).slots
      ["pattern", "max_repeat", "optional_probability"] =
      some [some (.string p), maxRepeat.map fun n => .number (.int n.toNat),
        probability.map fun x => .number (.float x)] := by
    cases maxRepeat <;> cases probability <;> rfl
  rw [read, placed]
  simp only [Option.bind_eq_bind, Option.bind_some, List.getElem?_cons_zero, List.getElem?_cons_succ,
    Option.join_some, readOptional_count, readOptional_float]
  rfl

namespace Schema

/-- A literal is a schema exactly if its pattern is readable. -/
theorem parse_literal (ctx : Context Generator) {p : String} (last : p.toList.getLast? ≠ some '\\') :
    parse ctx ("/" ++ String.ofList (escapeSlashes p.toList) ++ "/") =
      ((Pattern.ofText p ctx.settings).mapError
        (.unreadablePattern (String.ofList (escapeSlashes p.toList)) p)).map
        fun q => ⟨some (.pattern q)⟩ := by
  rw [parse, Token.tokenize_literal last]
  exact (ofTokens_pattern ctx _ rfl _).trans (congrArg (Except.map _) (Reading.readPattern_escape ..))

/-- A literal for a pattern and a definition with the pattern and the settings of the schema are one generator.
The literal is one token, the parser compiles exactly the pattern, both are refused or none is, and otherwise
both give the same text, or fail alike, and leave the same state. -/
theorem literal_defines {ctx : Context Generator} {p : String} {maxRepeat : Option UInt32}
    {probability : Option Binary64} (last : p.toList.getLast? ≠ some '\\')
    (configured : Pattern.Settings.of (maxRepeat.getD Pattern.Settings.initial.maxRepeat)
      (probability.getD Pattern.Settings.initial.optionalProbability) = .ok ctx.settings) :
    let literal := String.ofList (escapeSlashes p.toList)
    let source := "/" ++ literal ++ "/"
    Token.tokenize source = .ok [⟨.regex, literal, 0⟩, ⟨.eof, "", source.utf8ByteSize⟩] ∧
      Reading.readPattern ctx.settings ⟨.regex, literal, 0⟩ =
        (Pattern.ofText p ctx.settings).mapError (.unreadablePattern literal p) ∧
      ∃ definition,
        Definition.ofFields? "regex" (Definition.patternFields p maxRepeat probability) = some definition ∧
        ((∃ e, parse ctx source = .error e) ↔ ∃ fault, definition.toGenerator = .error fault) ∧
        ∀ schema g, parse ctx source = .ok schema → definition.toGenerator = .ok g →
          ∀ {σ : Type} [RandomSource σ] (w : World σ),
            (schema.generate Generator.draw).runFrom w = g.draw.runFrom w ∧
              ∀ v w', g.draw.runFrom w = (.ok v, w') → ∃ text, v = .string text := by
  intro literal source
  have parsed := parse_literal ctx last
  refine ⟨Token.tokenize_literal last, Reading.readPattern_escape _ _ _, _,
    Definition.ofFields?_patternFields p maxRepeat probability, ?_⟩
  cases compiled : Pattern.ofText p ctx.settings with
  | error e =>
    have defined : (Definition.regex p maxRepeat probability).toGenerator = .error (.pattern p e) := by
      simp only [Definition.toGenerator, Definition.regexGenerator, configured, compiled]
    rw [compiled] at parsed
    refine ⟨⟨fun _ => ⟨_, defined⟩, fun _ => ⟨_, parsed⟩⟩, fun schema g made => ?_⟩
    cases parsed.symm.trans made
  | ok q =>
    have defined : (Definition.regex p maxRepeat probability).toGenerator = .ok (.pattern q) := by
      simp only [Definition.toGenerator, Definition.regexGenerator, configured, compiled]
    rw [compiled] at parsed
    refine ⟨⟨fun ⟨e, refused⟩ => ?_, fun ⟨fault, refused⟩ => ?_⟩, fun schema g made given => ?_⟩
    · cases parsed.symm.trans refused
    · cases defined.symm.trans refused
    · cases parsed.symm.trans made
      cases defined.symm.trans given
      refine fun w => ⟨rfl, fun v w' drawn => ?_⟩
      obtain ⟨text, w'', -, same⟩ := (Gen.runFrom_bind_eq_ok_iff ..).mp drawn
      cases same
      exact ⟨text, rfl⟩

/-- The pattern `\/+`, a slash behind the backslash that escapes it, with the initial settings. -/
theorem literal_defines_backslash :
    let ctx : Context Generator := ⟨.empty, .initial⟩
    let literal := String.ofList (escapeSlashes "\\/+".toList)
    let source := "/" ++ literal ++ "/"
    literal = "\\\\/+" ∧
      Token.tokenize source = .ok [⟨.regex, literal, 0⟩, ⟨.eof, "", source.utf8ByteSize⟩] ∧
      Reading.readPattern ctx.settings ⟨.regex, literal, 0⟩ =
        (Pattern.ofText "\\/+" ctx.settings).mapError (.unreadablePattern literal "\\/+") ∧
      ∃ definition,
        Definition.ofFields? "regex" (Definition.patternFields "\\/+" none none) = some definition ∧
        ((∃ e, parse ctx source = .error e) ↔ ∃ fault, definition.toGenerator = .error fault) ∧
        ∀ schema g, parse ctx source = .ok schema → definition.toGenerator = .ok g →
          ∀ {σ : Type} [RandomSource σ] (w : World σ),
            (schema.generate Generator.draw).runFrom w = g.draw.runFrom w ∧
              ∀ v w', g.draw.runFrom w = (.ok v, w') → ∃ text, v = .string text :=
  ⟨by decide, literal_defines (by decide) rfl⟩

end Schema

end MockSchema
