import MockSchema.Proofs.JsonReading
import MockSchema.Value.Display

/-!
# The text of a container is read back

The text of a list or an object is that of its JSON document apart from the spaces and from the escapes in its
strings. So it can be read in two steps: `transcribe` puts the escapes of JSON in the place of the others and
leaves everything else as it is, and the JSON reader does the rest. Containers without floats come back as they
were, with the order of their keys, so no two of them have the same text (`Value.displayText_unambiguous`).
Floats are left out because a float without a fraction is shown like an integer.
-/

namespace MockSchema.Value

/-! ## Reading -/

/-- Where a reader of nested text stands: outside strings, inside one, behind a backslash there, behind the letter
that announces a code point, or behind some of its digits. -/
inductive Quoting where
  | outside | inside | backslash | announced
  | code (digits : List Char)

/-- The escapes of one letter. -/
def letterEscapes : List (Char × Char) :=
  [('"', '"'), ('\\', '\\'), ('t', '\t'), ('r', '\r'), ('n', '\n'), ('0', '\x00')]

/-- A nested text with the characters in its strings escaped as in JSON. -/
def transcribe : Quoting → List Char → Option (List Char)
  | .outside, [] => some []
  | _, [] => none
  | .outside, c :: r => (transcribe (if c = '"' then .inside else .outside) r).map (c :: ·)
  | .inside, c :: r =>
    if c = '"' then (transcribe .outside r).map (c :: ·)
    else if c = '\\' then transcribe .backslash r
    else (transcribe .inside r).map (Json.escape c ++ ·)
  | .backslash, c :: r =>
    if c = 'u' then transcribe .announced r
    else (letterEscapes.lookup c).bind fun d => (transcribe .inside r).map (Json.escape d ++ ·)
  | .announced, c :: r => if c = '{' then transcribe (.code []) r else none
  | .code digits, c :: r =>
    if c = '}' then ((Text.readNat? 16 digits).bind Json.charAt?).bind fun d =>
      (transcribe .inside r).map (Json.escape d ++ ·)
    else transcribe (.code (digits ++ [c])) r

/-- The container that a text shows. -/
def ofDisplayText? (text : String) : Option Value :=
  (transcribe .outside text.toList).bind fun cs => Json.read? (String.ofList cs)

/-! ## Strings are transcribed -/

theorem transcribe_code (digits more r : List Char) (open' : ∀ c ∈ more, c ≠ '}') :
    transcribe (.code digits) (more ++ '}' :: r) =
      ((Text.readNat? 16 (digits ++ more)).bind Json.charAt?).bind fun d =>
        (transcribe .inside r).map (Json.escape d ++ ·) := by
  induction more generalizing digits with
  | nil => simp [transcribe]
  | cons c more ih =>
    obtain ⟨first, open'⟩ := List.forall_mem_cons.mp open'
    rw [List.cons_append, transcribe, if_neg first, ih _ open', List.append_assoc, List.singleton_append]

/-- A code point in braces is read as its character. -/
theorem transcribe_escapeCode (c : Char) (r : List Char) :
    transcribe .inside (Text.escapeCode c ++ r) = (transcribe .inside r).map (Json.escape c ++ ·) := by
  have apart : ∀ d < 16, Nat.digitChar d ≠ '}' := by decide
  have inBraces : ∀ e ∈ Nat.toDigits 16 c.toNat, e ≠ '}' := by
    intro e member
    obtain ⟨d, small, rfl⟩ := exists_digitChar_of_mem (by decide) member
    exact apart d small
  have code := transcribe_code [] (Nat.toDigits 16 c.toNat) r inBraces
  rw [List.nil_append, Text.readNat?_toDigits_base (by decide) (Nat.le_refl 16), Option.bind_some,
    Json.charAt?_toNat, Option.bind_some] at code
  rw [Text.escapeCode, List.append_assoc, List.append_assoc]
  exact code

/-- The escape of a character is transcribed to its escape in JSON, whatever follows. -/
theorem transcribe_escape (c : Char) (r : List Char) :
    transcribe .inside (Text.escape '"' c ++ r) = (transcribe .inside r).map (Json.escape c ++ ·) := by
  unfold Text.escape
  split
  · next special =>
    rcases special with rfl | rfl
    · rfl
    · rfl
  split
  · next tab => subst tab; rfl
  split
  · next carriage => subst carriage; rfl
  split
  · next feed => subst feed; rfl
  split
  · next zero =>
    have null : c = '\x00' := Char.toNat_inj.mp zero
    subst null
    rfl
  split
  · exact transcribe_escapeCode c r
  split
  · next special _ _ _ _ _ _ =>
    simp only [not_or] at special
    rw [List.singleton_append, transcribe, if_neg special.1, if_neg special.2]
  · exact transcribe_escapeCode c r

theorem transcribe_quote (cs r : List Char) :
    transcribe .outside (Text.quote cs ++ r) = (transcribe .outside r).map (Json.string cs ++ ·) := by
  have body : transcribe .inside (cs.flatMap (Text.escape '"') ++ '"' :: r) =
      (transcribe .outside r).map ((cs.flatMap Json.escape ++ ['"']) ++ ·) := by
    induction cs with
    | nil => simp [transcribe]
    | cons c cs ih =>
      rw [List.flatMap_cons, List.append_assoc, transcribe_escape, ih, Option.map_map, List.flatMap_cons]
      simp [Function.comp_def]
  rw [Text.quote, List.append_assoc, List.singleton_append, List.cons_append, transcribe, if_pos rfl,
    body, Option.map_map]
  rfl

/-! ## Lexemes are transcribed -/

/-- What stands outside strings is left as it is. -/
theorem transcribe_plain {cs : List Char} (unquoted : ∀ c ∈ cs, c ≠ '"') (r : List Char) :
    transcribe .outside (cs ++ r) = (transcribe .outside r).map (cs ++ ·) := by
  induction cs with
  | nil => simp
  | cons c cs ih =>
    obtain ⟨first, unquoted⟩ := List.forall_mem_cons.mp unquoted
    rw [List.cons_append, transcribe, if_neg first, ih unquoted, Option.map_map]
    rfl

theorem head?_transcribe {cs out : List Char} (made : transcribe .outside cs = some out) :
    out.head? = cs.head? := by
  cases cs with
  | nil =>
    cases made
    rfl
  | cons c r =>
    rw [transcribe] at made
    obtain ⟨behind, -, rfl⟩ := Option.map_eq_some_iff.mp made
    rfl

/-- Outside strings the text is transcribed, to a JSON text of the given lexemes. -/
def Shows (ls : List Json.Lexeme) (cs : List Char) : Prop :=
  ∃ out, transcribe .outside cs = some out ∧ Json.Spaced ls out

namespace Shows

variable {ls : List Json.Lexeme} {cs : List Char}

theorem done : Shows [] [] := ⟨[], rfl, .done⟩

theorem mark (m : Json.Mark) (shown : Shows ls cs) : Shows (.mark m :: ls) (m.char :: cs) := by
  obtain ⟨out, made, spaced⟩ := shown
  have unquoted : m.char ≠ '"' := by cases m <;> decide
  refine ⟨m.char :: out, ?_, .mark m Json.blank_nil spaced⟩
  rw [transcribe, if_neg unquoted, made, Option.map_some]

/-- A space in front of a lexeme does not count. -/
theorem space (nonempty : ls ≠ []) (shown : Shows ls cs) : Shows ls (' ' :: cs) := by
  obtain ⟨out, made, spaced⟩ := shown
  have longer : ∀ {blank : List Char}, Json.Blank blank → Json.Blank (' ' :: blank) :=
    fun blank => List.forall_mem_cons.mpr ⟨rfl, blank⟩
  refine ⟨' ' :: out, by rw [transcribe, if_neg (by decide), made, Option.map_some], ?_⟩
  cases spaced with
  | done => exact absurd rfl nonempty
  | mark m blank rest => exact .mark m (longer blank) rest
  | scalar l blank ended rest => exact .scalar l (longer blank) ended rest

theorem scalar (l : Literal) {text : List Char} (shown : Shows ls cs) (ended : Json.Ended cs)
    (made : transcribe .outside (text ++ cs) = (transcribe .outside cs).map (Json.scalarChars l ++ ·)) :
    Shows (.scalar l :: ls) (text ++ cs) := by
  obtain ⟨out, before, spaced⟩ := shown
  refine ⟨Json.scalarChars l ++ out, by rw [made, before, Option.map_some], ?_⟩
  have ended : Json.Ended out := by rwa [Json.Ended, head?_transcribe before]
  exact .scalar l Json.blank_nil ended spaced

end Shows

/-! ## Values are read back -/

def isFloat : Literal → Bool
  | .float _ => true
  | _ => false

/-- No float at any depth. -/
def isFloatFree (v : Value) : Bool := Json.everyScalar (fun l => !isFloat l) v

/-- A list or an object. -/
def isContainer (v : Value) : Bool := v.asArray?.isSome || v.asObject?.isSome

theorem nullChars_ne_quote : ∀ c ∈ nullChars, c ≠ '"' := by simp [nullChars]

theorem boolChars_ne_quote (b : Bool) : ∀ c ∈ boolChars b, c ≠ '"' := by cases b <;> simp [boolChars]

theorem intChars_ne_quote (i : Int) : ∀ c ∈ intChars i, c ≠ '"' := by
  have digits : ∀ c ∈ Nat.toDigits 10 i.natAbs, c ≠ '"' := by
    rintro c member rfl
    cases isDigit_of_mem_decimal member
  unfold intChars
  split
  · exact List.forall_mem_cons.mpr ⟨by decide, digits⟩
  · exact digits

mutual

/-- The text of a value shows its lexemes, in front of any text that shows lexemes and ends a scalar. -/
theorem shows_nested : ∀ (v : Value) {ls cs}, isFloatFree v = true → Json.Ended cs → Shows ls cs →
    Shows (Json.lexemes v ++ ls) (nested v ++ cs)
  | .null, _, _, _, ended, shown => shown.scalar .null ended (transcribe_plain nullChars_ne_quote _)
  | .bool b, _, _, _, ended, shown =>
    shown.scalar (.bool b) ended (transcribe_plain (boolChars_ne_quote b) _)
  | .int i, _, _, _, ended, shown =>
    shown.scalar (.int i) ended (transcribe_plain (intChars_ne_quote i.toInt) _)
  | .string s, _, _, _, ended, shown => shown.scalar (.string s) ended (transcribe_quote s.toList _)
  | .array items, ls, cs, plain, _, shown => by
    -- the text is put together from its end, since what follows a space or a scalar counts
    have closed := shown.mark .endArray
    have inner := shows_items items plain (Json.ended_mark (by decide) cs) closed
    simpa [Json.lexemes, nested, Json.Mark.char] using inner.mark .beginArray
  | .object fields, ls, cs, plain, _, shown => by
    have closed := shown.mark .endObject
    have inner := shows_fields fields plain (Json.ended_mark (by decide) cs) closed
    simpa [Json.lexemes, nested, Json.Mark.char] using inner.mark .beginObject

theorem shows_items : ∀ (items : List Value) {l ls cs},
    Json.everyItemScalar (fun l => !isFloat l) items = true → Json.Ended cs → Shows (l :: ls) cs →
      Shows (Json.itemLexemes items ++ l :: ls) (separated (nestedItems items) ++ cs)
  | [], _, _, _, _, _, shown => shown
  | [v], l, ls, cs, plain, ended, shown => by
    rw [Json.everyItemScalar, Bool.and_eq_true] at plain
    exact shows_nested v plain.1 ended shown
  | v :: w :: rest, l, ls, cs, plain, ended, shown => by
    rw [Json.everyItemScalar, Bool.and_eq_true] at plain
    have others := (shows_items (w :: rest) plain.2 ended shown).space (by simp)
    have first := shows_nested v plain.1 (Json.ended_mark (by decide) _) (others.mark .comma)
    simpa [Json.itemLexemes, nestedItems, separated, Json.Mark.char] using first

theorem shows_fields : ∀ (fields : List (String × Value)) {l ls cs},
    Json.everyFieldScalar (fun l => !isFloat l) fields = true → Json.Ended cs → Shows (l :: ls) cs →
      Shows (Json.fieldLexemes fields ++ l :: ls) (separated (nestedFields fields) ++ cs)
  | [], _, _, _, _, _, shown => shown
  | [(key, v)], l, ls, cs, plain, ended, shown => by
    rw [Json.everyFieldScalar, Bool.and_eq_true, Bool.and_eq_true] at plain
    have value := (shows_nested v plain.1.2 ended shown).space (by simp)
    have first := (value.mark .colon).scalar (.string key) (Json.ended_mark (by decide) _)
      (transcribe_quote key.toList _)
    simpa [Json.fieldLexemes, nestedFields, separated, Json.Mark.char] using first
  | (key, v) :: w :: rest, l, ls, cs, plain, ended, shown => by
    rw [Json.everyFieldScalar, Bool.and_eq_true, Bool.and_eq_true] at plain
    have others := (shows_fields (w :: rest) plain.2 ended shown).space (by simp)
    have value := (shows_nested v plain.1.2 (Json.ended_mark (by decide) _) (others.mark .comma)).space
      (by simp)
    have first := (value.mark .colon).scalar (.string key) (Json.ended_mark (by decide) _)
      (transcribe_quote key.toList _)
    simpa [Json.fieldLexemes, nestedFields, separated, Json.Mark.char] using first

end

theorem finite_of_isFloatFree {v : Value} (plain : isFloatFree v = true) {l : Literal}
    (member : .scalar l ∈ Json.lexemes v) : Json.isFiniteScalar l = true := by
  have exact := Json.of_everyScalar v plain member
  cases l with
  | float x => cases exact
  | _ => rfl

theorem display_of_isContainer {v : Value} (container : v.isContainer = true) : v.display = nested v := by
  cases v with
  | string s => cases container
  | _ => rfl

theorem ofDisplayText?_displayText {v : Value} (container : v.isContainer = true)
    (plain : v.isFloatFree = true) : ofDisplayText? (displayText v) = some v := by
  have nothing : Json.Ended [] := fun c head => by cases head
  obtain ⟨out, made, spaced⟩ := shows_nested v plain nothing .done
  rw [List.append_nil] at made spaced
  have lexemes := Json.lexemes?_of_spaced spaced fun l => finite_of_isFloatFree plain
  have taken := Json.takeAll_lexemes [] [] v
  rw [List.append_nil] at taken
  rw [ofDisplayText?, displayText, String.toList_ofList, display_of_isContainer container, made,
    Option.bind_some, Json.read?, String.toList_ofList, lexemes, Option.bind_some, taken]
  rfl

/-- A list or an object without floats is read back from its text, whatever its strings and keys consist of, and so
it is the only one with this text. -/
theorem displayText_unambiguous {v : Value} (container : v.isContainer = true)
    (plain : v.isFloatFree = true) : ofDisplayText? (displayText v) = some v ∧
      ∀ w : Value, w.isContainer = true → w.isFloatFree = true → displayText v = displayText w → v = w := by
  have back := ofDisplayText?_displayText container plain
  refine ⟨back, fun w container' plain' same => ?_⟩
  have back' := ofDisplayText?_displayText container' plain'
  rw [← same] at back'
  exact Option.some.inj (back.symm.trans back')

/-- Quotes, commas and brackets in a string are not taken for those around it. -/
theorem displayText_unambiguous_separators :
    let v := Value.array [.string "a", .object [("b", .null), ("\\\n", .int (-1))]]
    let w := Value.array [.string "a\", \x7b\"b", .null]
    v.isContainer = true ∧ v.isFloatFree = true ∧ w.isContainer = true ∧ w.isFloatFree = true ∧
      ofDisplayText? (displayText v) = some v ∧ displayText v ≠ displayText w := by
  intro v w
  have container : v.isContainer = true := by decide
  have plain : v.isFloatFree = true := by decide
  have container' : w.isContainer = true := by decide
  have plain' : w.isFloatFree = true := by decide
  obtain ⟨back, only⟩ := displayText_unambiguous container plain
  refine ⟨container, plain, container', plain', back, fun same => ?_⟩
  have equal := only w container' plain' same
  simp [v, w] at equal

end MockSchema.Value
