import MockSchema.Encode.Json
import MockSchema.Proofs.JsonReader

/-!
# The lexemes of JSON texts

A JSON text consists of lexemes, which are structural characters and scalars, with white space between them.
The lexemes of a value do not depend on the layout. `chars_spaced` states that both layouts write exactly these
lexemes, put nothing but white space between them, and put something behind every scalar that ends it. Whoever
reads JSON texts can therefore forget the layout.
-/

namespace MockSchema.Json

/-- The written form of a scalar. -/
def scalarChars : Literal → List Char
  | .null => Value.nullChars
  | .bool b => Value.boolChars b
  | .int i => Value.intChars i.toInt
  | .float x => float x
  | .string s => string s.toList

mutual

/-- The lexemes of a value in order. -/
def lexemes : Value → List Lexeme
  | .null => [.scalar .null]
  | .bool b => [.scalar (.bool b)]
  | .int i => [.scalar (.int i)]
  | .float x => [.scalar (.float x)]
  | .string s => [.scalar (.string s)]
  | .array items => .mark .beginArray :: (itemLexemes items ++ [.mark .endArray])
  | .object fields => .mark .beginObject :: (fieldLexemes fields ++ [.mark .endObject])

/-- The lexemes of items with commas between them. -/
def itemLexemes : List Value → List Lexeme
  | [] => []
  | [v] => lexemes v
  | v :: w :: rest => lexemes v ++ .mark .comma :: itemLexemes (w :: rest)

/-- The lexemes of members with commas between them. -/
def fieldLexemes : List (String × Value) → List Lexeme
  | [] => []
  | [(key, v)] => .scalar (.string key) :: .mark .colon :: lexemes v
  | (key, v) :: w :: rest =>
    .scalar (.string key) :: .mark .colon :: (lexemes v ++ .mark .comma :: fieldLexemes (w :: rest))

end

mutual

/-- Whether a condition holds of every scalar of a value, the names of members included. -/
def everyScalar (p : Literal → Bool) : Value → Bool
  | .null => p .null
  | .bool b => p (.bool b)
  | .int i => p (.int i)
  | .float x => p (.float x)
  | .string s => p (.string s)
  | .array items => everyItemScalar p items
  | .object fields => everyFieldScalar p fields

def everyItemScalar (p : Literal → Bool) : List Value → Bool
  | [] => true
  | v :: rest => everyScalar p v && everyItemScalar p rest

def everyFieldScalar (p : Literal → Bool) : List (String × Value) → Bool
  | [] => true
  | (key, v) :: rest => p (.string key) && everyScalar p v && everyFieldScalar p rest

end

mutual

theorem of_everyScalar {p : Literal → Bool} {l : Literal} : ∀ v : Value, everyScalar p v = true →
    .scalar l ∈ lexemes v → p l = true
  | .null, every, member | .bool _, every, member | .int _, every, member | .float _, every, member
  | .string _, every, member => by
    simp only [lexemes, List.mem_singleton, Lexeme.scalar.injEq] at member
    rw [member]
    exact every
  | .array items, every, member => by
    simp only [lexemes, List.mem_cons, List.mem_append, List.not_mem_nil, reduceCtorEq, false_or,
      or_false] at member
    exact of_everyItemScalar items every member
  | .object fields, every, member => by
    simp only [lexemes, List.mem_cons, List.mem_append, List.not_mem_nil, reduceCtorEq, false_or,
      or_false] at member
    exact of_everyFieldScalar fields every member

theorem of_everyItemScalar {p : Literal → Bool} {l : Literal} : ∀ items : List Value,
    everyItemScalar p items = true → .scalar l ∈ itemLexemes items → p l = true
  | [v], every, member => by
    rw [everyItemScalar, Bool.and_eq_true] at every
    exact of_everyScalar v every.1 member
  | v :: w :: rest, every, member => by
    rw [everyItemScalar, Bool.and_eq_true] at every
    simp only [itemLexemes, List.mem_append, List.mem_cons, reduceCtorEq, false_or] at member
    rcases member with first | others
    · exact of_everyScalar v every.1 first
    · exact of_everyItemScalar (w :: rest) every.2 others

theorem of_everyFieldScalar {p : Literal → Bool} {l : Literal} : ∀ fields : List (String × Value),
    everyFieldScalar p fields = true → .scalar l ∈ fieldLexemes fields → p l = true
  | [(key, v)], every, member => by
    rw [everyFieldScalar, Bool.and_eq_true, Bool.and_eq_true] at every
    simp only [fieldLexemes, List.mem_cons, Lexeme.scalar.injEq, reduceCtorEq, false_or] at member
    rcases member with rfl | value
    · exact every.1.1
    · exact of_everyScalar v every.1.2 value
  | (key, v) :: w :: rest, every, member => by
    rw [everyFieldScalar, Bool.and_eq_true, Bool.and_eq_true] at every
    simp only [fieldLexemes, List.mem_append, List.mem_cons, Lexeme.scalar.injEq, reduceCtorEq,
      false_or] at member
    rcases member with rfl | value | others
    · exact every.1.1
    · exact of_everyScalar v every.1.2 value
    · exact of_everyFieldScalar (w :: rest) every.2 others

end

/-! ## White space -/

def Blank (space : List Char) : Prop := ∀ c ∈ space, Token.isSpace c = true

/-- White space or a structural character. -/
def endsScalar (c : Char) : Bool := Token.isSpace c || [',', ':', ']', '}'].contains c

/-- What stands behind a scalar: nothing, or something that is no part of it. -/
def Ended (cs : List Char) : Prop := ∀ c ∈ cs.head?, endsScalar c = true

/-- A text that consists of lexemes in order, with any white space in front of each. -/
inductive Spaced : List Lexeme → List Char → Prop
  | done : Spaced [] []
  | mark {space ls cs} (m : Mark) (blank : Blank space) (rest : Spaced ls cs) :
      Spaced (.mark m :: ls) (space ++ m.char :: cs)
  | scalar {space ls cs} (l : Literal) (blank : Blank space) (ended : Ended cs)
      (rest : Spaced ls cs) : Spaced (.scalar l :: ls) (space ++ (scalarChars l ++ cs))

theorem blank_nil : Blank [] := by
  intro c member
  cases member

theorem Layout.blank_lineStart (layout : Layout) : Blank layout.lineStart := by
  cases layout with
  | compact => exact blank_nil
  | pretty depth =>
    refine List.forall_mem_cons.mpr ⟨rfl, fun c member => ?_⟩
    rw [(List.mem_replicate.mp member).2]
    rfl

theorem ended_mark {m : Mark} (closing : m ≠ .beginArray ∧ m ≠ .beginObject) (cs : List Char) :
    Ended (m.char :: cs) := by
  intro c head
  cases head
  revert closing
  cases m <;> decide

/-- White space ends a scalar, and no white space leaves it to what follows. -/
theorem Ended.append_blank {space cs : List Char} (blank : Blank space) (ended : Ended cs) :
    Ended (space ++ cs) := by
  cases space with
  | nil => exact ended
  | cons c space =>
    intro d head
    cases head
    rw [endsScalar, blank c List.mem_cons_self, Bool.true_or]

/-- A colon with the white space of the layout behind it. -/
theorem Layout.exists_colon (layout : Layout) :
    ∃ space, Blank space ∧ layout.colon = Mark.colon.char :: space := by
  cases layout with
  | compact => exact ⟨[], blank_nil, rfl⟩
  | pretty depth => exact ⟨[' '], List.forall_mem_cons.mpr ⟨rfl, blank_nil⟩, rfl⟩

/-! ## What layouts write -/

/-- Joined parts in front of a closing character, each on a line of its own or all on one. -/
theorem container_eq (layout : Layout) (first last : Char) (part : List Char)
    (parts : List (List Char)) :
    container layout first last (part :: parts) =
      first :: (joinParts layout.deeper (part :: parts) ++ (layout.lineStart ++ [last])) := by
  simp [container]

mutual

/-- Any layout writes the lexemes of a value. By induction on the value, in front of any text that has been
taken apart and ends a scalar. -/
theorem chars_spaced (layout : Layout) : ∀ (v : Value) {space ls cs}, Blank space → Ended cs →
    Spaced ls cs → Spaced (lexemes v ++ ls) (space ++ (chars layout v ++ cs))
  | .null, _, _, _, blank, ended, rest => .scalar .null blank ended rest
  | .bool b, _, _, _, blank, ended, rest => .scalar (.bool b) blank ended rest
  | .int i, _, _, _, blank, ended, rest => .scalar (.int i) blank ended rest
  | .float x, _, _, _, blank, ended, rest => .scalar (.float x) blank ended rest
  | .string s, _, _, _, blank, ended, rest => .scalar (.string s) blank ended rest
  | .array [], _, _, _, blank, _, rest => .mark .beginArray blank (.mark .endArray blank_nil rest)
  | .array (v :: items), space, ls, cs, blank, _, rest => by
    -- the text is put together from its end, since a scalar needs what ends it
    have closed := Spaced.mark .endArray layout.blank_lineStart rest
    have inner := items_spaced layout.deeper (v :: items) (List.cons_ne_nil v items)
      ((ended_mark (by decide) cs).append_blank layout.blank_lineStart) closed
    have opened := Spaced.mark .beginArray blank inner
    simpa [lexemes, chars, itemChars, container_eq, Mark.char] using opened
  | .object [], _, _, _, blank, _, rest =>
    .mark .beginObject blank (.mark .endObject blank_nil rest)
  | .object (field :: fields), space, ls, cs, blank, _, rest => by
    have closed := Spaced.mark .endObject layout.blank_lineStart rest
    have inner := fields_spaced layout.deeper (field :: fields) (List.cons_ne_nil field fields)
      ((ended_mark (by decide) cs).append_blank layout.blank_lineStart) closed
    have opened := Spaced.mark .beginObject blank inner
    simpa [lexemes, chars, fieldChars, container_eq, Mark.char] using opened

theorem items_spaced (layout : Layout) : ∀ (items : List Value) {ls cs}, items ≠ [] → Ended cs →
    Spaced ls cs → Spaced (itemLexemes items ++ ls) (joinParts layout (itemChars layout items) ++ cs)
  | [v], ls, cs, _, ended, rest => by
    have one := chars_spaced layout v layout.blank_lineStart ended rest
    simpa [itemLexemes, itemChars, joinParts] using one
  | v :: w :: items, ls, cs, _, ended, rest => by
    have others := Spaced.mark .comma blank_nil
      (items_spaced layout (w :: items) (List.cons_ne_nil w items) ended rest)
    have one := chars_spaced layout v layout.blank_lineStart (ended_mark (by decide) _) others
    simpa [itemLexemes, itemChars, joinParts, Mark.char] using one

theorem fields_spaced (layout : Layout) : ∀ (fields : List (String × Value)) {ls cs},
    fields ≠ [] → Ended cs → Spaced ls cs →
      Spaced (fieldLexemes fields ++ ls) (joinParts layout (fieldChars layout fields) ++ cs)
  | [(key, v)], ls, cs, _, ended, rest => by
    obtain ⟨space, blank, colon⟩ := layout.exists_colon
    have value := Spaced.mark .colon blank_nil (chars_spaced layout v blank ended rest)
    have one := Spaced.scalar (.string key) layout.blank_lineStart (ended_mark (by decide) _) value
    simpa [fieldLexemes, fieldChars, joinParts, colon, scalarChars] using one
  | (key, v) :: w :: fields, ls, cs, _, ended, rest => by
    obtain ⟨space, blank, colon⟩ := layout.exists_colon
    have others := Spaced.mark .comma blank_nil
      (fields_spaced layout (w :: fields) (List.cons_ne_nil w fields) ended rest)
    have value := Spaced.mark .colon blank_nil
      (chars_spaced layout v blank (ended_mark (by decide) _) others)
    have one := Spaced.scalar (.string key) layout.blank_lineStart (ended_mark (by decide) _) value
    simpa [fieldLexemes, fieldChars, joinParts, colon, scalarChars, Mark.char] using one

end

/-- The text of a value consists of its lexemes. -/
theorem write_spaced (pretty : Bool) (v : Value) : Spaced (lexemes v) (write pretty v).toList := by
  have whole := chars_spaced (.ofPretty pretty) v blank_nil (by simp [Ended]) Spaced.done
  simpa [write] using whole

end MockSchema.Json
