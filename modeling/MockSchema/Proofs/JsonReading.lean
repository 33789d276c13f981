import MockSchema.Encode.Format
import MockSchema.Proofs.JsonLexeme
import MockSchema.Proofs.JsonNumber

/-!
# JSON texts are read back

The reader undoes the writer in both layouts: every string character, every number and the order of members
come back. Scalars are read back one by one (`lexeme?_scalarChars`), and the lexemes of a value determine the
value (`takeAll_lexemes`).
-/

namespace MockSchema.Json

/-! ## Strings are read back -/

/-- The code point of a control character written with two hexadecimal digits. -/
theorem readNat?_control : ∀ n < 0x20,
    Text.readNat? 16 ['0', '0', Nat.digitChar (n / 16), Nat.digitChar (n % 16)] = some n := by
  decide

theorem charAt?_toNat (c : Char) : charAt? c.toNat = some c := by
  have valid : c.toNat.isValidChar := c.valid
  rw [charAt?, if_pos valid, Char.ofNat_toNat]

/-- The escape of a character is read as the character, whatever follows. -/
theorem character?_escape (c : Char) (r : List Char) :
    character? (escape c ++ r) = some (c, r) := by
  unfold escape
  split
  · next special =>
    rcases special with rfl | rfl
    · rfl
    · rfl
  split
  · next feed => subst feed; rfl
  split
  · next tab => subst tab; rfl
  split
  · next carriage => subst carriage; rfl
  split
  · next backspace => subst backspace; rfl
  split
  · next form => subst form; rfl
  split
  · next control =>
    have unit : codeUnit? ('0' :: '0' :: Nat.digitChar (c.toNat / 16) ::
        Nat.digitChar (c.toNat % 16) :: r) = some (c.toNat, r) := by
      rw [codeUnit?, readNat?_control c.toNat control, Option.map_some]
    have alone : fromUnit? c.toNat r = some (c, r) := by
      -- a control character is no half of a surrogate pair
      rw [fromUnit?, if_neg (by omega), charAt?_toNat, Option.map_some]
    simp only [List.cons_append, List.nil_append, character?, escaped?, if_true, unit,
      Option.bind_some, alone]
  · next special _ _ _ _ _ control =>
    simp only [not_or] at special
    rw [List.singleton_append, character?, if_neg special.2, if_neg (by simp [special.1, control])]

/-- No escape begins with the quote that ends a string. -/
theorem escape_cons (c : Char) : ∃ d r, escape c = d :: r ∧ d ≠ '"' := by
  unfold escape
  split
  · exact ⟨_, _, rfl, by decide⟩
  split
  · exact ⟨_, _, rfl, by decide⟩
  split
  · exact ⟨_, _, rfl, by decide⟩
  split
  · exact ⟨_, _, rfl, by decide⟩
  split
  · exact ⟨_, _, rfl, by decide⟩
  split
  · exact ⟨_, _, rfl, by decide⟩
  split
  · exact ⟨_, _, rfl, by decide⟩
  · next special _ _ _ _ _ _ => exact ⟨c, [], rfl, fun quote => special (.inl quote)⟩

theorem string?_of_character? {c d : Char} {r behind : List Char} (quote : c ≠ '"')
    (read : character? (c :: r) = some (d, behind)) :
    string? (c :: r) = (string? behind).map fun p => (d :: p.1, p.2) := by
  rw [string?, if_neg quote]
  split
  · next none => cases none.symm.trans read
  · next read' =>
    cases read.symm.trans read'
    rfl

theorem string?_flatMap_escape (cs r : List Char) :
    string? (cs.flatMap escape ++ '"' :: r) = some (cs, r) := by
  induction cs with
  | nil => simp [string?]
  | cons c cs ih =>
    obtain ⟨d, ds, escaped, quote⟩ := escape_cons c
    have read := character?_escape c (cs.flatMap escape ++ '"' :: r)
    rw [escaped, List.cons_append] at read
    rw [List.flatMap_cons, escaped, List.append_assoc, List.cons_append,
      string?_of_character? quote read, ih, Option.map_some]

/-! ## Scalars are read back -/

theorem isPlainChar_iff (c : Char) : isPlainChar c = true ↔ c ∉ delimiters := by
  simp [isPlainChar]

theorem mem_delimiters_of_endsScalar {c : Char} (ends : endsScalar c = true) : c ∈ delimiters := by
  simp only [endsScalar, Token.isSpace, Bool.or_eq_true, decide_eq_true_eq, List.contains_iff_mem,
    List.mem_cons, List.not_mem_nil, or_false] at ends
  rcases ends with (((rfl | rfl) | rfl) | rfl) | rfl | rfl | rfl | rfl <;> decide

/-- No plain character ends a scalar. -/
theorem not_isPlainChar_of_ended {rest : List Char} (ended : Ended rest) :
    ∀ c ∈ rest.head?, isPlainChar c = false := by
  intro c head
  have stops : ¬ isPlainChar c = true := by
    rw [isPlainChar_iff, Decidable.not_not]
    exact mem_delimiters_of_endsScalar (ended c head)
  rwa [Bool.not_eq_true] at stops

/-- A scalar whose text is plain is read wherever it ends. -/
theorem lexeme?_of_plain? {cs : List Char} {l : Literal} (nonempty : cs ≠ [])
    (plain : ∀ c ∈ cs, isPlainChar c = true) (read : plain? cs = some l) {rest : List Char}
    (ended : Ended rest) : lexeme? (cs ++ rest) = some (.scalar l, rest) := by
  obtain ⟨taken, dropped⟩ := takeWhile_run plain (not_isPlainChar_of_ended ended)
  cases cs with
  | nil => exact absurd rfl nonempty
  | cons c r =>
    have first := plain c List.mem_cons_self
    have apart := (isPlainChar_iff c).mp first
    have unmarked : mark? c = none := by
      rw [mark?, List.find?_eq_none]
      intro m listed same
      rw [decide_eq_true_eq] at same
      exact apart (List.mem_append_right _ (List.mem_map.mpr ⟨m, listed, same⟩))
    have unquoted : c ≠ '"' := by
      rintro rfl
      exact apart (by decide)
    rw [List.cons_append] at taken dropped ⊢
    rw [lexeme?, unmarked]
    simp only [if_neg unquoted, first, if_true, taken, dropped, read, Option.map_some]

/-- No word is a number. -/
theorem plain?_of_number? {cs : List Char} {l : Literal} (read : number? cs = some l) :
    plain? cs = some l := by
  unfold plain?
  split
  · cases read
  · cases read
  · cases read
  · exact read

theorem IsNumberChar.plain {c : Char} (h : IsNumberChar c) : isPlainChar c = true := by
  have apart : delimiters.all (fun d => !d.isDigit && !(['-', '+', '.', 'e', 'E'].contains d)) = true :=
    rfl
  rw [isPlainChar_iff]
  intro delimiter
  have outside := List.all_eq_true.mp apart c delimiter
  rw [Bool.and_eq_true, Bool.not_eq_true', Bool.not_eq_true'] at outside
  rcases h with digit | other
  · rw [outside.1] at digit
    cases digit
  · rw [List.contains_iff_mem.mpr other] at outside
    cases outside.2

/-! ## Lexemes are read back -/

/-- Neither an infinity nor a NaN, which are written as null. -/
def isFiniteScalar : Literal → Bool
  | .float x => x.isFinite
  | _ => true

theorem lexeme?_scalarChars {l : Literal} (finite : isFiniteScalar l = true) {rest : List Char}
    (ended : Ended rest) : lexeme? (scalarChars l ++ rest) = some (.scalar l, rest) := by
  have ofNumber : ∀ {cs : List Char}, number? cs = some l →
      lexeme? (cs ++ rest) = some (.scalar l, rest) := by
    intro cs read
    have nonempty : cs ≠ [] := by
      rintro rfl
      cases read
    exact lexeme?_of_plain? nonempty (fun c member => (isNumberChar_of_number? read c member).plain)
      (plain?_of_number? read) ended
  cases l with
  | null => exact lexeme?_of_plain? (by decide) (List.all_eq_true.mp rfl) rfl ended
  | bool b =>
    cases b with
    | false => exact lexeme?_of_plain? (by decide) (List.all_eq_true.mp rfl) rfl ended
    | true => exact lexeme?_of_plain? (by decide) (List.all_eq_true.mp rfl) rfl ended
  | int i => exact ofNumber (number?_intChars i)
  | float x => exact ofNumber (number?_float finite)
  | string s =>
    have body := string?_flatMap_escape s.toList rest
    have unmarked : mark? '"' = none := rfl
    rw [scalarChars, string, List.append_assoc, List.singleton_append, List.cons_append, lexeme?]
    simp only [unmarked, if_true, body, Option.map_some, String.ofList_toList]

theorem lexeme?_mark (m : Mark) (rest : List Char) :
    lexeme? (m.char :: rest) = some (.mark m, rest) := by
  cases m <;> rfl

/-- No lexeme begins with white space. -/
theorem lexeme?_of_isSpace {c : Char} (space : Token.isSpace c = true) (r : List Char) :
    lexeme? (c :: r) = none := by
  simp only [Token.isSpace, Bool.or_eq_true, decide_eq_true_eq] at space
  rcases space with ((rfl | rfl) | rfl) | rfl
  · rfl
  · rfl
  · rfl
  · rfl

/-- White space in front of a lexeme is skipped whole. -/
theorem dropWhile_blank {space cs rest : List Char} {l : Lexeme} (blank : Blank space)
    (read : lexeme? cs = some (l, rest)) : (space ++ cs).dropWhile Token.isSpace = cs := by
  refine (takeWhile_run blank ?_).2
  intro c head
  obtain ⟨r, rfl⟩ := List.head?_eq_some_iff.mp head
  by_contra space
  rw [lexeme?_of_isSpace (by simpa using space)] at read
  cases read

theorem lexemes?_of_lexeme? {space cs rest : List Char} {l : Lexeme} (blank : Blank space)
    (read : lexeme? cs = some (l, rest)) :
    lexemes? (space ++ cs) = (lexemes? rest).map (l :: ·) := by
  have dropped := dropWhile_blank blank read
  have nonempty : cs ≠ [] := by
    rintro rfl
    cases read
  rw [← dropped] at read nonempty
  rw [lexemes?, if_neg nonempty]
  split
  · next none => cases none.symm.trans read
  · next read' =>
    cases read.symm.trans read'
    rfl

/-- A text that consists of lexemes is cut into these lexemes. -/
theorem lexemes?_of_spaced {ls : List Lexeme} {cs : List Char} (spaced : Spaced ls cs)
    (finite : ∀ l, .scalar l ∈ ls → isFiniteScalar l = true) : lexemes? cs = some ls := by
  induction spaced with
  | done => rw [lexemes?]; rfl
  | mark m blank rest ih =>
    rw [lexemes?_of_lexeme? blank (lexeme?_mark m _),
      ih fun l member => finite l (List.mem_cons_of_mem _ member)]
    rfl
  | scalar l blank ended rest ih =>
    rw [lexemes?_of_lexeme? blank (lexeme?_scalarChars (finite l List.mem_cons_self) ended),
      ih fun l member => finite l (List.mem_cons_of_mem _ member)]
    rfl

/-! ## Values are read back -/

theorem takeAll_cons {place next : Place} {l : Lexeme} (h : take place l = some next)
    (ls : List Lexeme) : takeAll place (l :: ls) = takeAll next ls := by
  rw [takeAll, h, Option.bind_some]

/-- Behind the bracket that begins a list, a value is its first item. -/
theorem takeAll_firstItem (opened : List Frame) (v : Value) (items : List Value) (ls : List Lexeme) :
    takeAll ⟨.itemOrEnd, opened⟩ (itemLexemes (v :: items) ++ ls) =
      takeAll ⟨.value, .array [] :: opened⟩ (itemLexemes (v :: items) ++ ls) := by
  cases items with
  | nil => cases v <;> rfl
  | cons w rest => cases v <;> rfl

/-- Behind the brace that begins an object, a name begins its first member. -/
theorem takeAll_firstField (opened : List Frame) (field : String × Value)
    (fields : List (String × Value)) (ls : List Lexeme) :
    takeAll ⟨.nameOrEnd, opened⟩ (fieldLexemes (field :: fields) ++ ls) =
      takeAll ⟨.name [], opened⟩ (fieldLexemes (field :: fields) ++ ls) := by
  cases fields with
  | nil => rfl
  | cons w rest => rfl

/-- A name and a colon announce the value of a member. -/
theorem takeAll_name (opened : List Frame) (members : List (String × Value)) (name : String)
    (ls : List Lexeme) :
    takeAll ⟨.name members, opened⟩ (.scalar (.string name) :: .mark .colon :: ls) =
      takeAll ⟨.value, .member members name :: opened⟩ ls := rfl

mutual

/-- The lexemes of a value are taken as the value, whatever is open around it. By induction on the value;
what is open when an item or a member has been read tells what may come next. -/
theorem takeAll_lexemes (opened : List Frame) (ls : List Lexeme) : ∀ v : Value,
    takeAll ⟨.value, opened⟩ (lexemes v ++ ls) = takeAll (complete opened v) ls
  | .null => rfl
  | .bool _ => rfl
  | .int _ => rfl
  | .float _ => rfl
  | .string _ => rfl
  | .array [] => rfl
  | .array (v :: items) => by
    have inner := takeAll_items opened ls [] (v :: items) (List.cons_ne_nil v items)
    have bracket : take ⟨.value, opened⟩ (.mark .beginArray) = some ⟨.itemOrEnd, opened⟩ := rfl
    rw [lexemes, List.cons_append, List.append_assoc, List.singleton_append, takeAll_cons bracket,
      takeAll_firstItem, inner, List.nil_append]
  | .object [] => rfl
  | .object (field :: fields) => by
    have inner := takeAll_fields opened ls [] (field :: fields) (List.cons_ne_nil field fields)
    have brace : take ⟨.value, opened⟩ (.mark .beginObject) = some ⟨.nameOrEnd, opened⟩ := rfl
    rw [lexemes, List.cons_append, List.append_assoc, List.singleton_append, takeAll_cons brace,
      takeAll_firstField, inner, List.nil_append]

theorem takeAll_items (opened : List Frame) (ls : List Lexeme) (before : List Value) :
    ∀ items : List Value, items ≠ [] →
      takeAll ⟨.value, .array before :: opened⟩ (itemLexemes items ++ .mark .endArray :: ls) =
        takeAll (complete opened (.array (before ++ items))) ls
  | [v], _ => by
    rw [itemLexemes, takeAll_lexemes]
    rfl
  | v :: w :: rest, _ => by
    have others := takeAll_items opened ls (before ++ [v]) (w :: rest) (List.cons_ne_nil w rest)
    have comma : take ⟨.afterItem (before ++ [v]), opened⟩ (.mark .comma) =
        some ⟨.value, .array (before ++ [v]) :: opened⟩ := rfl
    rw [List.append_assoc, List.singleton_append] at others
    rw [itemLexemes, List.append_assoc, List.cons_append, takeAll_lexemes, complete,
      takeAll_cons comma, others]

theorem takeAll_fields (opened : List Frame) (ls : List Lexeme) (before : List (String × Value)) :
    ∀ fields : List (String × Value), fields ≠ [] →
      takeAll ⟨.name before, opened⟩ (fieldLexemes fields ++ .mark .endObject :: ls) =
        takeAll (complete opened (.object (before ++ fields))) ls
  | [(key, v)], _ => by
    rw [fieldLexemes, List.cons_append, List.cons_append, takeAll_name, takeAll_lexemes]
    rfl
  | (key, v) :: w :: rest, _ => by
    have others := takeAll_fields opened ls (before ++ [(key, v)]) (w :: rest)
      (List.cons_ne_nil w rest)
    have comma : take ⟨.afterMember (before ++ [(key, v)]), opened⟩ (.mark .comma) =
        some ⟨.name (before ++ [(key, v)]), opened⟩ := rfl
    rw [List.append_assoc, List.singleton_append] at others
    rw [fieldLexemes, List.cons_append, List.cons_append, takeAll_name, List.append_assoc,
      List.cons_append, takeAll_lexemes, complete, takeAll_cons comma, others]

end

/-! ## Texts are read back -/

/-- Both layouts write a value without infinities and NaN as a text that is read as the value. -/
theorem write_reads_back {v : Value} (finite : everyScalar isFiniteScalar v = true) (pretty : Bool) :
    ∃ text, Format.json.write pretty v = .ok text ∧ read? text = some v := by
  have scalars : ∀ l, .scalar l ∈ lexemes v → isFiniteScalar l = true :=
    fun l => of_everyScalar v finite
  have whole := takeAll_lexemes [] [] v
  rw [List.append_nil] at whole
  refine ⟨_, rfl, ?_⟩
  rw [read?, lexemes?_of_spaced (write_spaced pretty v) scalars, Option.bind_some, whole]
  rfl

theorem write_reads_back_nested :
    everyScalar isFiniteScalar (.object [("a\n", .array [.float ⟨0x3FF8000000000000⟩, .null])]) = true ∧
    ∃ text, Format.json.write true (.object [("a\n", .array [.float ⟨0x3FF8000000000000⟩, .null])]) =
      .ok text ∧ read? text =
        some (.object [("a\n", .array [.float ⟨0x3FF8000000000000⟩, .null])]) :=
  ⟨by decide, write_reads_back (by decide) true⟩

end MockSchema.Json
