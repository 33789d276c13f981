import MockSchema.Encode.Format
import MockSchema.Proofs.Draws
import MockSchema.Proofs.IntegerText
import MockSchema.Proofs.JsonLexeme
import MockSchema.Proofs.KeyOrder
import MockSchema.Proofs.Reading
import MockSchema.Proofs.Rescanning
import MockSchema.Schema.Generate

/-!
# JSON texts as schemas

The JSON text of a value without floats, without escapes and without lists of several items is a schema, and
the schema gives the value and nothing else. The tokens of the text are its lexemes (`tokenizeFrom_spaced`),
the lexemes of a value derive the constant node of the value (`exists_derivation`), and that node gives the
value without a draw (`generate_constant`).
-/

namespace MockSchema.Json

/-! ## Constant values -/

/-- Nothing in the text of a string is escaped. -/
def isBare (s : String) : Bool := s.toList.all fun c => c ≠ '"' && c ≠ '\\' && 0x20 ≤ c.toNat

/-- Scalars that JSON and schemas write alike. -/
def isConstantScalar : Literal → Bool
  | .float _ => false
  | .string s => isBare s
  | _ => true

mutual

/-- Every list has one item at most, since a schema has one node for all items of a list, and no object has
two members of one name. -/
def hasOneForm : Value → Bool
  | .array items => itemHasOneForm items
  | .object fields => decide (fields.map Prod.fst).Nodup && fieldsHaveOneForm fields
  | _ => true

def itemHasOneForm : List Value → Bool
  | [] => true
  | [v] => hasOneForm v
  | _ => false

def fieldsHaveOneForm : List (String × Value) → Bool
  | [] => true
  | (_, v) :: rest => hasOneForm v && fieldsHaveOneForm rest

end

mutual

/-- The node that gives a value. -/
def constant {η : Type} : Value → Node η
  | .null => .literal .null
  | .bool b => .literal (.bool b)
  | .int i => .literal (.int i)
  | .float x => .literal (.float x)
  | .string s => .literal (.string s)
  | .array items => constantList items
  | .object fields => .object (constantMembers fields)

/-- The list of the first item, if there is one. -/
def constantList {η : Type} : List Value → Node η
  | [] => .emptyArray
  | v :: _ => .array none (constant v)

def constantMembers {η : Type} : List (String × Value) → List (String × Node η)
  | [] => []
  | (key, v) :: rest => (key, constant v) :: constantMembers rest

end

/-! ## Tokens -/

def Mark.kind : Mark → TokenKind
  | .beginArray => .lbracket
  | .endArray => .rbracket
  | .beginObject => .lbrace
  | .endObject => .rbrace
  | .colon => .colon
  | .comma => .comma

variable {η : Type}

/-- A token for a lexeme. -/
def Lexeme.Is (ctx : Context η) (t : Token) : Lexeme → Prop
  | .mark m => t.kind = m.kind
  | .scalar l => t.Denotes ctx (.literal l)

/-- The characters behind a scalar are in no word and in no number. -/
theorem Ended.head {rest : List Char} (ended : Ended rest) :
    ∀ c ∈ rest.head?, Token.isWordChar c = false ∧ c.isDigit = false ∧ c ≠ '.' ∧ c ≠ 'e' ∧ c ≠ 'E' := by
  intro c head
  have ends := ended c head
  simp only [endsScalar, Token.isSpace, Bool.or_eq_true, decide_eq_true_eq, List.contains_iff_mem,
    List.mem_cons, List.not_mem_nil, or_false] at ends
  rcases ends with (((rfl | rfl) | rfl) | rfl) | rfl | rfl | rfl | rfl <;> decide

theorem intChars_cons (i : Int) :
    ∃ c r, Value.intChars i = c :: r ∧ (c.isDigit || c = '-') = true := by
  unfold Value.intChars
  split
  · exact ⟨'-', _, rfl, rfl⟩
  · obtain ⟨c, r, digits⟩ := List.exists_cons_of_ne_nil (Nat.toDigits_ne_nil (n := i.natAbs) (b := 10))
    have digit : c.isDigit = true := isDigit_of_mem_decimal (digits ▸ List.mem_cons_self)
    exact ⟨c, r, digits, by simp [digit]⟩

/-- An integer is scanned whole. -/
theorem scan_int (i : Int) {rest : List Char} (ended : Ended rest) (offset : Nat) :
    ∃ behind, Token.scan ⟨Value.intChars i ++ rest, offset⟩ =
      (.ok ⟨.integer, String.ofList (Value.intChars i), offset⟩, ⟨rest, behind⟩) := by
  have piece := Token.cutNumber_intChars i fun d head => (ended.head d head).2
  obtain ⟨c, r, written, first⟩ := intChars_cons i
  rw [written] at piece ⊢
  exact ⟨_, Token.scan_number first piece offset⟩

theorem escape_of_bare {c : Char} (bare : c ≠ '"' ∧ c ≠ '\\' ∧ 0x20 ≤ c.toNat) : escape c = [c] := by
  obtain ⟨quote, backslash, control⟩ := bare
  have visible : ∀ d : Char, d.toNat < 0x20 → c ≠ d := by
    rintro d low rfl
    omega
  rw [escape, if_neg (by simp [quote, backslash]), if_neg (visible _ (by decide)),
    if_neg (visible _ (by decide)), if_neg (visible _ (by decide)), if_neg (visible _ (by decide)),
    if_neg (visible _ (by decide)), if_neg (by omega)]

theorem isBare_iff (s : String) :
    isBare s = true ↔ ∀ c ∈ s.toList, c ≠ '"' ∧ c ≠ '\\' ∧ 0x20 ≤ c.toNat := by
  simp [isBare, and_assoc]

/-- A string without escapes stands between quotes as it is. -/
theorem string_of_bare {s : String} (bare : isBare s = true) :
    string s.toList = '"' :: (s.toList ++ ['"']) := by
  have all := (isBare_iff s).mp bare
  have body : s.toList.flatMap escape = s.toList := by
    rw [List.flatMap_congr fun c member => escape_of_bare (all c member), List.flatMap_singleton']
  rw [string, body, List.cons_append]

/-- A string without escapes is scanned whole. -/
theorem scan_string {s : String} (bare : isBare s = true) (rest : List Char) (offset : Nat) :
    ∃ behind, Token.scan ⟨string s.toList ++ rest, offset⟩ =
      (.ok ⟨.string, s, offset⟩, ⟨rest, behind⟩) := by
  have free : '"' ∉ s.toList := fun member => ((isBare_iff s).mp bare _ member).1 rfl
  have cut := Token.untilDelimiter_append free rest
  rw [string_of_bare bare, List.cons_append, List.append_assoc, List.singleton_append]
  refine ⟨offset + Text.width ('"' :: s.toList ++ ['"']), ?_⟩
  have scanned : Token.scan ⟨'"' :: (s.toList ++ '"' :: rest), offset⟩ =
      Token.Cursor.delimited ⟨'"' :: (s.toList ++ '"' :: rest), offset⟩ .string '"'
        (s.toList ++ '"' :: rest) (Token.untilDelimiter '"' (s.toList ++ '"' :: rest))
        (.unclosedString offset) := rfl
  rw [scanned, cut, Token.Cursor.delimited, String.ofList_toList]
  rfl

/-- A scalar is scanned whole, and its token stands for it. -/
theorem scan_scalarChars (ctx : Context η) {l : Literal} (constant : isConstantScalar l = true)
    {rest : List Char} (ended : Ended rest) (offset : Nat) :
    ∃ t behind, Token.scan ⟨scalarChars l ++ rest, offset⟩ = (.ok t, ⟨rest, behind⟩) ∧
      t.Denotes ctx (.literal l) := by
  have ends : ∀ d ∈ rest.head?, Token.isWordChar d = false := fun d head => (ended.head d head).1
  cases l with
  | null =>
    have scanned := Token.scan_word (c := 'n') (r := ['u', 'l', 'l']) rfl
      (List.all_eq_true.mp rfl) ends offset
    exact ⟨_, _, scanned, .null rfl⟩
  | bool b =>
    cases b with
    | false =>
      have scanned := Token.scan_word (c := 'f') (r := ['a', 'l', 's', 'e']) rfl
        (List.all_eq_true.mp rfl) ends offset
      exact ⟨_, _, scanned, .false rfl⟩
    | true =>
      have scanned := Token.scan_word (c := 't') (r := ['r', 'u', 'e']) rfl
        (List.all_eq_true.mp rfl) ends offset
      exact ⟨_, _, scanned, .true rfl⟩
  | int i =>
    obtain ⟨behind, scanned⟩ := scan_int i.toInt ended offset
    refine ⟨_, behind, scanned, .integer rfl ?_⟩
    rw [String.toList_ofList, Text.readInt64?_intChars]
  | float x => cases constant
  | string s =>
    obtain ⟨behind, scanned⟩ := scan_string constant rest offset
    exact ⟨_, behind, scanned, .string rfl⟩

/-- A structural character is a token of its own. -/
theorem scan_mark (m : Mark) (rest : List Char) (offset : Nat) :
    ∃ t behind, Token.scan ⟨m.char :: rest, offset⟩ = (.ok t, ⟨rest, behind⟩) ∧ t.kind = m.kind := by
  cases m <;> exact ⟨_, _, rfl, rfl⟩

/-- The token of a lexeme is neither white space nor the end. -/
theorem Lexeme.Is.kind_ne {ctx : Context η} {l : Lexeme} {t : Token} (stands : Lexeme.Is ctx t l)
    {kind : TokenKind} (other : kind = .whitespace ∨ kind = .eof) : t.kind ≠ kind := by
  rintro rfl
  cases l with
  | mark m =>
    rw [show t.kind = m.kind from stands] at other
    revert other
    cases m <;> decide
  | scalar l =>
    have leaf := Token.isLeaf_of_denotes stands
    rcases other with space | eof
    · rw [space] at leaf
      cases leaf
    · rw [eof] at leaf
      cases leaf

/-- A lexeme that is scanned whole is the next token behind white space. -/
theorem tokenizeFrom_lexeme {ctx : Context η} (l : Lexeme) {space cs rest : List Char}
    (blank : Blank space)
    (scanned : ∀ offset, ∃ t behind, Token.scan ⟨cs, offset⟩ = (.ok t, ⟨rest, behind⟩) ∧ Lexeme.Is ctx t l)
    (offset : Nat) :
    ∃ t behind, Lexeme.Is ctx t l ∧ ∀ {ts}, Token.tokenizeFrom ⟨rest, behind⟩ = .ok ts →
      Token.tokenizeFrom ⟨space ++ cs, offset⟩ = .ok (t :: ts) :=
  Token.tokenizeFrom_next (P := fun t => Lexeme.Is ctx t l)
    (fun stands => ⟨stands.kind_ne (.inl rfl), stands.kind_ne (.inr rfl)⟩) blank scanned offset

/-- A text that consists of lexemes is cut into their tokens. -/
theorem tokenizeFrom_spaced (ctx : Context η) {ls : List Lexeme} {cs : List Char}
    (spaced : Spaced ls cs) (constant : ∀ l, .scalar l ∈ ls → isConstantScalar l = true)
    (offset : Nat) :
    ∃ ts last, Token.tokenizeFrom ⟨cs, offset⟩ = .ok (ts ++ [last]) ∧ last.kind = .eof ∧
      List.Forall₂ (Lexeme.Is ctx) ts ls := by
  induction spaced generalizing offset with
  | done =>
    refine ⟨[], ⟨.eof, "", offset⟩, ?_, rfl, .nil⟩
    rw [Token.tokenizeFrom, dif_pos rfl, List.nil_append]
  | mark m blank rest ih =>
    obtain ⟨t, behind, stands, goesOn⟩ :=
      tokenizeFrom_lexeme (.mark m) blank (scan_mark m _) offset
    obtain ⟨ts, last, read, eof, others⟩ :=
      ih (fun l member => constant l (List.mem_cons_of_mem _ member)) behind
    exact ⟨t :: ts, last, goesOn read, eof, .cons stands others⟩
  | scalar l blank ended rest ih =>
    obtain ⟨t, behind, stands, goesOn⟩ := tokenizeFrom_lexeme (.scalar l) blank
      (scan_scalarChars ctx (constant l List.mem_cons_self) ended) offset
    obtain ⟨ts, last, read, eof, others⟩ :=
      ih (fun l member => constant l (List.mem_cons_of_mem _ member)) behind
    exact ⟨t :: ts, last, goesOn read, eof, .cons stands others⟩

/-- These tokens are all in front of the end. -/
theorem sentence_of_lexemes {ctx : Context η} {ts : List Token} {ls : List Lexeme} {last : Token}
    (eof : last.kind = .eof) (stand : List.Forall₂ (Lexeme.Is ctx) ts ls) :
    Token.sentence (ts ++ [last]) = ts := by
  induction stand with
  | nil => simp [Token.sentence, eof]
  | cons stands _ ih =>
    rw [Token.sentence, List.cons_append,
      List.takeWhile_cons_of_pos (by simpa using stands.kind_ne (.inr rfl))]
    exact congrArg _ ih

/-! ## Nodes -/

theorem constant_ne_range (v : Value) (r : Range) : (constant v : Node η) ≠ .range r := by
  cases v with
  | array items => cases items <;> simp [constant, constantList]
  | _ => simp [constant]

/-! ## Derivations -/

theorem exists_of_forall₂_append {ctx : Context η} {ts : List Token} {front back : List Lexeme}
    (stand : List.Forall₂ (Lexeme.Is ctx) ts (front ++ back)) :
    ∃ ts' ts'', ts = ts' ++ ts'' ∧ List.Forall₂ (Lexeme.Is ctx) ts' front ∧
      List.Forall₂ (Lexeme.Is ctx) ts'' back :=
  ⟨_, _, (List.take_append_drop front.length ts).symm, List.forall₂_take_append ts front back stand,
    List.forall₂_drop_append ts front back stand⟩

/-- Brackets or braces with other lexemes between them. -/
theorem exists_of_enclosed {ctx : Context η} {first last : Mark} {ts : List Token} {ls : List Lexeme}
    (stand : List.Forall₂ (Lexeme.Is ctx) ts (.mark first :: (ls ++ [.mark last]))) :
    ∃ (left : Token.Of first.kind) (inner : List Token) (right : Token.Of last.kind),
      ts = left.val :: (inner ++ [right.val]) ∧ List.Forall₂ (Lexeme.Is ctx) inner ls := by
  obtain ⟨left, ts, opens, behind, rfl⟩ := List.forall₂_cons_right_iff.mp stand
  obtain ⟨inner, ts, rfl, between, closing⟩ := exists_of_forall₂_append behind
  obtain ⟨right, behind, closes, empty, rfl⟩ := List.forall₂_cons_right_iff.mp closing
  cases empty
  exact ⟨⟨left, opens⟩, inner, ⟨right, closes⟩, rfl, between⟩

/-- A name with its colon in front of other lexemes. -/
theorem exists_of_named {ctx : Context η} {key : String} {ts : List Token} {ls : List Lexeme}
    (stand : List.Forall₂ (Lexeme.Is ctx) ts (.scalar (.string key) :: .mark .colon :: ls)) :
    ∃ (name : Token.Of .string) (colon : Token.Of .colon) (behind : List Token),
      ts = name.val :: colon.val :: behind ∧ name.val.literal = key ∧
        List.Forall₂ (Lexeme.Is ctx) behind ls := by
  obtain ⟨name, ts, named, rest, rfl⟩ := List.forall₂_cons_right_iff.mp stand
  obtain ⟨colon, behind, colonIs, others, rfl⟩ := List.forall₂_cons_right_iff.mp rest
  cases named with
  | string kind => exact ⟨⟨name, kind⟩, ⟨colon, colonIs⟩, behind, rfl, rfl, others⟩

theorem exists_derivation_scalar {ctx : Context η} {ts : List Token} {l : Literal}
    (stand : List.Forall₂ (Lexeme.Is ctx) ts [.scalar l]) :
    ∃ d : ValueTree, d.tokens = ts ∧ d.Denotes ctx (.literal l) := by
  obtain ⟨t, behind, stands, empty, rfl⟩ := List.forall₂_cons_right_iff.mp stand
  cases empty
  exact ⟨.leaf ⟨t, Token.isLeaf_of_denotes stands⟩, rfl, .leaf stands⟩

theorem ne_range_of_denotes {ctx : Context η} {d : ValueTree} {v : Value}
    (stands : d.Denotes ctx (constant v)) (r : RangeTree) : d ≠ .range r := by
  rintro rfl
  generalize node : (constant v : Node η) = n at stands
  cases stands with
  | range bounded => exact constant_ne_range v _ node

mutual

/-- Tokens for the lexemes of a value derive its node. By induction on the value, along the lexemes. -/
theorem exists_derivation (ctx : Context η) : ∀ (v : Value) {ts : List Token}, hasOneForm v = true →
    List.Forall₂ (Lexeme.Is ctx) ts (lexemes v) →
      ∃ d : ValueTree, d.tokens = ts ∧ d.Denotes ctx (constant v)
  | .null, _, _, stand | .bool _, _, _, stand | .int _, _, _, stand | .float _, _, _, stand
  | .string _, _, _, stand => exists_derivation_scalar stand
  | .array [], _, _, stand => by
    obtain ⟨left, inner, right, rfl, empty⟩ := exists_of_enclosed stand
    cases empty
    exact ⟨.emptyArray left right, rfl, .emptyArray⟩
  | .array [v], _, form, stand => by
    obtain ⟨left, inner, right, rfl, item⟩ := exists_of_enclosed stand
    obtain ⟨d, rfl, stands⟩ := exists_derivation ctx v form item
    exact ⟨.array left d right, rfl, .array stands (ne_range_of_denotes stands)⟩
  | .object [], _, _, stand => by
    obtain ⟨left, inner, right, rfl, empty⟩ := exists_of_enclosed stand
    cases empty
    exact ⟨.emptyObject left right, rfl, .emptyObject⟩
  | .object (field :: fields), _, form, stand => by
    rw [hasOneForm, Bool.and_eq_true] at form
    obtain ⟨left, inner, right, rfl, listed⟩ := exists_of_enclosed stand
    obtain ⟨d, rfl, stands⟩ :=
      exists_derivation_fields ctx (field :: fields) (List.cons_ne_nil field fields) form.2 listed
    exact ⟨.object left d right, rfl, .object stands⟩

theorem exists_derivation_fields (ctx : Context η) : ∀ (fields : List (String × Value))
    {ts : List Token}, fields ≠ [] → fieldsHaveOneForm fields = true →
      List.Forall₂ (Lexeme.Is ctx) ts (fieldLexemes fields) →
        ∃ d : PairsTree, d.tokens = ts ∧ d.Denotes ctx (constantMembers fields)
  | [(key, v)], _, _, form, stand => by
    rw [fieldsHaveOneForm, Bool.and_eq_true] at form
    obtain ⟨name, colon, behind, rfl, rfl, value⟩ := exists_of_named stand
    obtain ⟨d, rfl, stands⟩ := exists_derivation ctx v form.1 value
    exact ⟨.last name colon d, rfl, .last stands⟩
  | (key, v) :: w :: rest, _, _, form, stand => by
    rw [fieldsHaveOneForm, Bool.and_eq_true] at form
    obtain ⟨name, colon, behind, rfl, rfl, listed⟩ := exists_of_named stand
    obtain ⟨value, behind, rfl, first, next⟩ := exists_of_forall₂_append listed
    obtain ⟨comma, others, commaIs, more, rfl⟩ := List.forall₂_cons_right_iff.mp next
    obtain ⟨d, rfl, stands⟩ := exists_derivation ctx v form.1 first
    obtain ⟨d', rfl, stands'⟩ :=
      exists_derivation_fields ctx (w :: rest) (List.cons_ne_nil w rest) form.2 more
    exact ⟨.more name colon d ⟨comma, commaIs⟩ d', rfl, .more stands stands'⟩

end

/-! ## Draws -/

mutual

/-- The node of a value gives the value without a draw. -/
theorem generate_constant {σ : Type} [RandomSource σ] (call : η → Gen σ Value) : ∀ v : Value,
    hasOneForm v = true → (constant v).generate call = pure v
  | .null, _ => rfl
  | .bool _, _ => rfl
  | .int _, _ => rfl
  | .float _, _ => rfl
  | .string _, _ => rfl
  | .array [], _ => rfl
  | .array [v], form => by
    have item := generate_constant call v form
    rw [constant, constantList, Node.generate, item]
    rfl
  | .object fields, form => by
    rw [hasOneForm, Bool.and_eq_true, decide_eq_true_eq] at form
    have members := generate_constantMembers call fields form.2
    rw [constant, Node.generate, members, pure_bind, Entries.ofPairs_of_nodup form.1]

theorem generate_constantMembers {σ : Type} [RandomSource σ] (call : η → Gen σ Value) :
    ∀ fields : List (String × Value), fieldsHaveOneForm fields = true →
      Node.generateMembers call (constantMembers fields) = pure fields
  | [], _ => rfl
  | (key, v) :: rest, form => by
    rw [fieldsHaveOneForm, Bool.and_eq_true] at form
    have first := generate_constant call v form.1
    have others := generate_constantMembers call rest form.2
    rw [constantMembers, Node.generateMembers, first, others]
    rfl

end

/-! ## The round trip -/

theorem parse_write (ctx : Context η) (pretty : Bool) {v : Value}
    (scalars : everyScalar isConstantScalar v = true) (form : hasOneForm v = true) :
    Schema.parse ctx (write pretty v) = .ok ⟨some (constant v)⟩ := by
  obtain ⟨ts, last, cut, eof, stand⟩ :=
    tokenizeFrom_spaced ctx (write_spaced pretty v) (fun l => of_everyScalar v scalars) 0
  obtain ⟨d, tokens, stands⟩ := exists_derivation ctx v form stand
  have sentence := sentence_of_lexemes eof stand
  have read : Schema.ofTokens ctx (ts ++ [last]) = .ok ⟨some (constant v)⟩ :=
    (Schema.ofTokens_eq_ok ctx _ _).mpr ⟨d, tokens.trans sentence.symm, _, stands, rfl⟩
  have cut : Token.tokenize (write pretty v) = .ok (ts ++ [last]) := cut
  simp only [Schema.parse, cut, read]

/-- The JSON text of a constant value in either layout is a schema in every context, and the schema gives
the value, the members of its objects in order, and takes nothing from the source. -/
theorem write_describes (ctx : Context η) (pretty : Bool) {v : Value}
    (scalars : everyScalar isConstantScalar v = true) (form : hasOneForm v = true) :
    ∃ text schema, Format.json.write pretty v = .ok text ∧ Schema.parse ctx text = .ok schema ∧
      ∀ {σ : Type} [RandomSource σ] (call : η → Gen σ Value) (s : σ),
        (schema.generate call).runFrom s = (.ok v, s) := by
  refine ⟨_, _, rfl, parse_write ctx pretty scalars form, ?_⟩
  intro σ _ call s
  have drawn : Schema.generate call ⟨some (constant v)⟩ = pure v := generate_constant call v form
  rw [drawn, Gen.runFrom_pure]

/-- An object with the least integer, a name that is not in order, an empty text and empty containers. -/
theorem write_describes_object :
    let v : Value := .object [("é", .array [.object [("n", .int Int64.minValue), ("a", .null)]]),
      ("", .string "§ / \x60"), ("b", .array []), ("c", .array [.object []])]
    everyScalar isConstantScalar v = true ∧ hasOneForm v = true ∧
    ∃ text schema, Format.json.write true v = .ok text ∧
      Schema.parse (default : Context Unit) text = .ok schema ∧
      ∀ {σ : Type} [RandomSource σ] (call : Unit → Gen σ Value) (s : σ),
        (schema.generate call).runFrom s = (.ok v, s) :=
  ⟨by decide, by decide, write_describes default true (by decide) (by decide)⟩

end MockSchema.Json
