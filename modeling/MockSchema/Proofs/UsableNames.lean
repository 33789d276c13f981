import MockSchema.Proofs.DefinitionLoading
import MockSchema.Proofs.Reading
import MockSchema.Proofs.Rescanning

/-!
# Names that can be used

A name may be given to a definition exactly if it is a token of its own in a schema text: an identifier, and
nothing besides (`isUsableName_iff_tokenize`). So what is loaded from a file can be asked for by its name, alone
or in a template, and the name stands for the generator of its definition
(`names_are_identifiers_and_stand`).
-/

namespace MockSchema

/-! ## Names and identifiers -/

theorem isUsableName_iff (name : String) :
    isUsableName name = true ↔ ∃ c r, name.toList = c :: r ∧ c.isAlpha = true ∧
      (∀ d ∈ r, Token.isWordChar d = true) ∧ TokenKind.keyword? (c :: r) = none := by
  unfold isUsableName Token.isWordChar
  cases name.toList with
  | nil => simp
  | cons c r => simp [and_assoc]

namespace Token

/-- The kinds of the reserved words are not that of names. -/
theorem keyword?_eq_none_iff (word : List Char) :
    TokenKind.keyword? word = none ↔ (TokenKind.keyword? word).getD .ident = .ident := by
  unfold TokenKind.keyword?
  split <;> simp

/-- No structural character is a name. -/
theorem punctuation?_ne_ident (c : Char) : TokenKind.punctuation? c ≠ some .ident := by
  unfold TokenKind.punctuation?
  split_ifs <;> decide

/-- An identifier is a name that can be used. -/
theorem Takes.isUsableName {offset : Nat} {piece rest : List Char} {t : Token}
    (h : Takes offset piece rest (.ok t)) (kind : t.kind = .ident) : isUsableName t.literal = true := by
  cases h with
  | @word c r _ first others =>
    have free := (keyword?_eq_none_iff (c :: r)).mpr kind
    exact (isUsableName_iff _).mpr ⟨c, r, by simp, first, others, free⟩
  | number first cut =>
    cases kind
    rcases cutNumber_kind (congrArg NumberPiece.verdict cut) with same | same <;> cases same
  | mark known =>
    cases kind
    exact absurd known (punctuation?_ne_ident _)
  | space | string | template | pattern => cases kind

/-- A name that can be used is an identifier. -/
theorem takes_of_isUsableName {name : String} (usable : MockSchema.isUsableName name = true) :
    Takes 0 name.toList [] (.ok ⟨.ident, name, 0⟩) := by
  obtain ⟨c, r, written, first, others, free⟩ := (isUsableName_iff name).mp usable
  have takes : Takes 0 (c :: r) [] _ := .word first others
  rwa [(keyword?_eq_none_iff (c :: r)).mp free, ← written, String.ofList_toList] at takes

/-- A name that can be used is cut into itself. -/
theorem tokenize_of_isUsableName {name : String} (usable : MockSchema.isUsableName name = true) :
    tokenize name = .ok [⟨.ident, name, 0⟩, ⟨.eof, "", Text.width name.toList⟩] :=
  (takes_of_isUsableName usable).alone (by simp)

/-- Whatever is cut from a text as an identifier is a name that can be used. -/
theorem isUsableName_of_mem {source : String} {ts : List Token} (cut : tokenize source = .ok ts)
    {t : Token} (member : t ∈ ts) (kind : t.kind = .ident) : isUsableName t.literal = true := by
  have inner : t.kind ≠ .eof := by rw [kind]; decide
  obtain ⟨-, piece, rest, takes⟩ := taken_of_mem cut t member inner
  exact takes.isUsableName kind

/-- A name can be used exactly if it is an identifier and nothing besides. -/
theorem isUsableName_iff_tokenize (name : String) :
    MockSchema.isUsableName name = true ↔
      ∃ start stop, tokenize name = .ok [⟨.ident, name, start⟩, ⟨.eof, "", stop⟩] := by
  constructor
  · intro usable
    exact ⟨0, Text.width name.toList, tokenize_of_isUsableName usable⟩
  · rintro ⟨start, stop, cut⟩
    exact isUsableName_of_mem cut List.mem_cons_self rfl

end Token

/-! ## Texts of one token -/

section OneToken

variable {η : Type} {ctx : Context η}

/-- A text of one token is read as what the token stands for. -/
theorem Schema.parse_of_denotes {source : String} {t : Token} {stop : Nat}
    (cut : Token.tokenize source = .ok [t, ⟨.eof, "", stop⟩]) {node : Node η}
    (stands : t.Denotes ctx node) : Schema.parse ctx source = .ok ⟨some node⟩ := by
  have leaf := Token.isLeaf_of_denotes stands
  have inner : t.kind ≠ .eof := by
    intro eof
    rw [eof] at leaf
    cases leaf
  rw [Schema.parse, cut]
  refine (Schema.ofTokens_eq_ok ctx _ _).mpr ⟨.leaf ⟨t, leaf⟩, ?_, node, .leaf stands, rfl⟩
  simp [ValueTree.tokens, Token.sentence, inner]

/-! ## Names in templates -/

/-- White space around a text that has none in it is dropped. -/
theorem Text.trim_append {p : Char → Bool} {left inner right : List Char}
    (leftAll : ∀ c ∈ left, p c = true) (rightAll : ∀ c ∈ right, p c = true)
    (free : ∀ c ∈ inner, p c = false) (nonempty : inner ≠ []) :
    Text.trim p (left ++ inner ++ right) = inner := by
  have begins : ∀ c ∈ (inner ++ right).head?, p c = false := by
    intro c head
    rw [List.head?_append_of_ne_nil _ nonempty] at head
    exact free c (List.mem_of_mem_head? head)
  have ends : ∀ c ∈ inner.reverse.head?, p c = false :=
    fun c head => free c (List.mem_reverse.mp (List.mem_of_mem_head? head))
  have backwards : ∀ c ∈ right.reverse, p c = true :=
    fun c member => rightAll c (List.mem_reverse.mp member)
  rw [Text.trim, List.append_assoc, (takeWhile_run leftAll begins).2, List.reverse_append,
    (takeWhile_run backwards ends).2, List.reverse_reverse]

theorem visible_of_isWordChar {c : Char} (word : Token.isWordChar c = true) :
    33 ≤ c.toNat ∧ c.toNat ≤ 126 := by
  change ((decide ('A'.val ≤ c.val ∧ c.val ≤ 'Z'.val) ||
    decide ('a'.val ≤ c.val) && decide (c.val ≤ 'z'.val) ||
    decide ('0'.val ≤ c.val) && decide (c.val ≤ '9'.val)) || decide (c = '_')) = true at word
  simp only [Bool.or_eq_true, Bool.and_eq_true, decide_eq_true_eq, UInt32.le_iff_toNat_le,
    Char.toNat_val, Char.reduceToNat] at word
  rcases word with inside | rfl
  · omega
  · decide

/-- A name that can be used has a character, and all of its characters may stand in a word. -/
theorem isWordChar_of_isUsableName {name : String} (usable : isUsableName name = true) :
    name.toList ≠ [] ∧ ∀ c ∈ name.toList, Token.isWordChar c = true := by
  obtain ⟨c, r, written, first, others, -⟩ := (isUsableName_iff name).mp usable
  have word : Token.isWordChar c = true := by simp [Token.isWordChar, Char.isAlphanum, first]
  rw [written]
  exact ⟨List.cons_ne_nil c r, List.forall_mem_cons.mpr ⟨word, others⟩⟩

/-- A template of one place with a name in it and other characters around the name. -/
def placeSource (left : List Char) (name : String) (right : List Char) : String :=
  String.ofList ('\x60' :: TemplateCut.placeChars (left ++ name.toList ++ right) ++ ['\x60'])

/-- A place without a grave accent in it is a template by itself. -/
theorem tokenize_placeSource {left right : List Char} {name : String}
    (free : '\x60' ∉ left ++ name.toList ++ right) :
    ∃ stop, Token.tokenize (placeSource left name right) =
      .ok [⟨.template, String.ofList (TemplateCut.placeChars (left ++ name.toList ++ right)), 0⟩,
        ⟨.eof, "", stop⟩] := by
  have free : '\x60' ∉ TemplateCut.placeChars (left ++ name.toList ++ right) := by
    simpa [TemplateCut.placeChars] using free
  have takes : Token.Takes 0 _ [] _ := .template (Token.untilDelimiter_append free [])
  rw [Token.tokenize, placeSource, Token.Cursor.start, String.toList_ofList]
  exact ⟨_, takes.alone (by simp)⟩

/-- How a terminal is written: by its name, or by its name in a place, with any white space around it. -/
structure Written (ctx : Context η) (t : Terminal η) : Prop where
  alone : Schema.parse ctx t.name = .ok ⟨some (.terminal t)⟩
  inPlace : ∀ left right, (∀ c ∈ left ++ right, Unicode.isWhiteSpace c = true) →
    Schema.parse ctx (placeSource left t.name right) = .ok ⟨some (.template
      ⟨String.ofList (TemplateCut.placeChars (left ++ t.name.toList ++ right)), [.param 0], [t]⟩)⟩

/-- A registered name that can be used stands for its handle. -/
theorem written_of_get? {name : String} {handle : η} (usable : isUsableName name = true)
    (registered : ctx.registry.get? name = some handle) : Written ctx ⟨name, handle⟩ where
  alone := Schema.parse_of_denotes (Token.tokenize_of_isUsableName usable) (.terminal rfl registered)
  inPlace left right blank := by
    obtain ⟨nonempty, word⟩ := isWordChar_of_isUsableName usable
    -- neither the end of a template nor that of a place is white space or stands in a word
    have free {d : Char} (solid : Unicode.isWhiteSpace d = false) (mark : Token.isWordChar d = false) :
        d ∉ left ++ name.toList ++ right := by
      intro member
      rcases List.mem_append.mp member with member | member
      · rcases List.mem_append.mp member with member | member
        · simp [blank d (List.mem_append_left right member)] at solid
        · simp [word d member] at mark
      · simp [blank d (List.mem_append_right left member)] at solid
    obtain ⟨leftBlank, rightBlank⟩ := List.forall_mem_append.mp blank
    have inner : ∀ c ∈ name.toList, Unicode.isWhiteSpace c = false :=
      fun c member => Unicode.isWhiteSpace_of_visible (visible_of_isWordChar (word c member))
    have names : ctx.registry.Names (left ++ name.toList ++ right) ⟨name, handle⟩ := by
      rw [Registry.Names, Text.trim_append leftBlank rightBlank inner nonempty]
      exact ⟨String.ofList_toList.symm, registered⟩
    let cut : TemplateCut := ⟨[([], left ++ name.toList ++ right)], []⟩
    have leftmost : cut.IsLeftmost := by
      refine ⟨?_, ?_, isPlain_nil⟩
      · simpa [cut] using isPlain_nil
      · simpa [cut] using free (d := '}') rfl rfl
    obtain ⟨stop, cutInto⟩ := tokenize_placeSource (free (d := '\x60') rfl rfl)
    refine Schema.parse_of_denotes cutInto ?_
    exact .template rfl (by simp [cut, TemplateCut.chars]) leftmost (.cons names .nil)

end OneToken

namespace DefinitionFile

/-- Names that can be used are the identifiers, and once a file is loaded every name in it is read as the
generator of its definition. -/
theorem names_are_identifiers_and_stand :
    (∀ name, isUsableName name = true ↔
      ∃ start stop, Token.tokenize name = .ok [⟨.ident, name, start⟩, ⟨.eof, "", stop⟩]) ∧
    ∀ file : DefinitionFile, file.Ascending → ∀ (r r' : Registry Generator) (count : Nat),
      file.registerInto r = .ok (r', count) → ∀ e ∈ file.definitions,
        ∃ g, e.2.toGenerator = .ok g ∧ ∀ settings, Written ⟨r', settings⟩ ⟨e.1, g⟩ := by
  refine ⟨Token.isUsableName_iff_tokenize, ?_⟩
  intro file ascending r r' count loaded e member
  obtain ⟨g, ⟨usable, made⟩, found⟩ := get?_of_registerInto ascending loaded member
  exact ⟨g, made, fun settings => written_of_get? usable found⟩

/-- A name in the second of two entries, with a space before it and an ideographic space behind it. -/
theorem names_are_identifiers_and_stand_spaced :
    let file : DefinitionFile := ⟨[("level", .intRange 1 5), ("tag_2", .static (.string "x"))]⟩
    file.Ascending ∧ ∃ r', file.registerInto Generator.builtins = .ok (r', 2) ∧
      Schema.parse ⟨r', .initial⟩ "\x60$\x7b tag_2\u3000\x7d\x60" = .ok ⟨some (.template
        ⟨"$\x7b tag_2\u3000\x7d", [.param 0], [⟨"tag_2", .constant (.string "x")⟩]⟩)⟩ := by
  intro file
  have ascending : file.Ascending := by
    simp only [Ascending, file, ← Text.lt_iff_bytes_lt]
    decide
  have loaded : ∃ r', file.registerInto Generator.builtins = .ok (r', 2) := ⟨_, rfl⟩
  obtain ⟨r', loaded⟩ := loaded
  obtain ⟨g, made, written⟩ := names_are_identifiers_and_stand.2 file ascending _ r' 2 loaded
    ("tag_2", .static (.string "x")) (by simp [file])
  cases made
  have blank : ∀ c ∈ [' '] ++ ['\u3000'], Unicode.isWhiteSpace c = true :=
    List.all_eq_true.mp rfl
  have placed := (written .initial).inPlace [' '] ['\u3000'] blank
  have source : placeSource [' '] "tag_2" ['\u3000'] = "\x60$\x7b tag_2\u3000\x7d\x60" := by decide
  have raw : String.ofList (TemplateCut.placeChars ([' '] ++ "tag_2".toList ++ ['\u3000'])) =
      "$\x7b tag_2\u3000\x7d" := by decide
  rw [source, raw] at placed
  exact ⟨ascending, r', loaded, placed⟩

end DefinitionFile

end MockSchema
