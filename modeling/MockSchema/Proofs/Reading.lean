import MockSchema.Proofs.Derivation

/-!
# Reading follows the grammar

The reader takes one token at a time and keeps what is open on a stack. `Finishes` says what the tokens
still to come must look like from a place in the middle of a schema: a value, the rest of an object, a
list or a range, and then whatever the stack demands. One step of the reader takes one token off that
demand (`finishes_cons_iff`), so a whole run succeeds exactly on the tokens of a correct derivation and
gives the node that the derivation stands for (`ofTokens_eq_ok_iff`).
-/

namespace MockSchema

variable {η : Type}

/-! ## Tokens by themselves -/

namespace Reading

theorem leaf?_eq_none_iff (ctx : Context η) (t : Token) :
    leaf? ctx t = none ↔ t.kind.isLeaf = false := by
  obtain ⟨kind, literal, offset⟩ := t
  cases kind <;> simp [leaf?, TokenKind.isLeaf]

theorem readInteger_eq_ok_iff (t : Token) (n : Int64) :
    readInteger t = .ok n ↔ Text.readInt64? t.literal.toList = some n := by
  unfold readInteger
  cases Text.readInt64? t.literal.toList <;> simp

theorem readFloat_eq_ok_iff (t : Token) (x : Binary64) :
    readFloat t = .ok x ↔
      Binary64.read? t.literal.toList = some x ∧ x.isFinite = true := by
  unfold readFloat
  cases Binary64.read? t.literal.toList with
  | none => simp
  | some y =>
    by_cases finite : y.isFinite = true
    · simp only [finite, if_true, Except.ok.injEq, Option.some.injEq]
      constructor
      · rintro rfl
        exact ⟨rfl, finite⟩
      · exact And.left
    · simp only [finite, Option.some.injEq]
      constructor
      · intro h
        simp at h
      · rintro ⟨rfl, h⟩
        exact absurd h finite

theorem readPattern_eq_ok_iff (settings : Pattern.Settings) (t : Token) (p : Pattern) :
    readPattern settings t = .ok p ↔
      Pattern.ofText (String.ofList (unescapeSlashes t.literal.toList)) settings = .ok p := by
  unfold readPattern
  cases h : Pattern.ofText (String.ofList (unescapeSlashes t.literal.toList)) settings <;> simp [h]

/-- A leaf is read exactly if its token stands for a node. -/
theorem leaf?_eq_ok_iff (ctx : Context η) (t : Token) (node : Node η) :
    leaf? ctx t = some (.ok node) ↔ t.Denotes ctx node := by
  constructor
  · intro h
    unfold leaf? at h
    split at h <;> simp only [Option.some.injEq, map_eq_ok_iff, reduceCtorEq, Except.ok.injEq] at h
    · next kind =>
      obtain ⟨⟨name, handle⟩, found, rfl⟩ := h
      obtain ⟨rfl, registered⟩ := (Registry.resolve_eq_ok_iff ..).mp found
      exact .terminal kind registered
    · next kind =>
      obtain ⟨n, found, rfl⟩ := h
      exact .integer kind ((readInteger_eq_ok_iff t n).mp found)
    · next kind =>
      obtain ⟨x, found, rfl⟩ := h
      obtain ⟨number, finite⟩ := (readFloat_eq_ok_iff t x).mp found
      exact .float kind number finite
    · next kind => exact h ▸ .string kind
    · next kind =>
      obtain ⟨⟨raw, segments, params⟩, found, rfl⟩ := h
      obtain ⟨rfl, cut, written, leftmost, rfl, registered⟩ :=
        (Registry.template_eq_ok_iff ..).mp found
      exact .template kind written leftmost registered
    · next kind =>
      obtain ⟨p, found, rfl⟩ := h
      exact .pattern kind ((readPattern_eq_ok_iff ctx.settings t p).mp found)
    · next kind => exact h ▸ .null kind
    · next kind => exact h ▸ .true kind
    · next kind => exact h ▸ .false kind
  · intro h
    cases h with
    | terminal kind registered =>
      simp only [leaf?, kind, Option.some.injEq, map_eq_ok_iff]
      exact ⟨_, (Registry.resolve_eq_ok_iff ..).mpr ⟨rfl, registered⟩, rfl⟩
    | integer kind integer =>
      simp only [leaf?, kind, Option.some.injEq, map_eq_ok_iff]
      exact ⟨_, (readInteger_eq_ok_iff ..).mpr integer, rfl⟩
    | float kind number finite =>
      simp only [leaf?, kind, Option.some.injEq, map_eq_ok_iff]
      exact ⟨_, (readFloat_eq_ok_iff ..).mpr ⟨number, finite⟩, rfl⟩
    | string kind => simp only [leaf?, kind]
    | template kind written leftmost registered =>
      simp only [leaf?, kind, Option.some.injEq, map_eq_ok_iff]
      exact ⟨_, (Registry.template_eq_ok_iff ..).mpr
        ⟨rfl, _, written, leftmost, rfl, registered⟩, rfl⟩
    | pattern kind compiles =>
      simp only [leaf?, kind, Option.some.injEq, map_eq_ok_iff]
      exact ⟨_, (readPattern_eq_ok_iff ..).mpr compiles, rfl⟩
    | null kind => simp only [leaf?, kind]
    | true kind => simp only [leaf?, kind]
    | false kind => simp only [leaf?, kind]

end Reading

/-- The tokens of a schema: those in front of the end token. -/
def Token.sentence (tokens : List Token) : List Token :=
  tokens.takeWhile (·.kind ≠ .eof)

namespace Reading

/-! ## What is still to come -/

/-- A value at the front of tokens, and what is behind it. -/
def HasValue (ctx : Context η) (ts : List Token) (v : Node η) (rest : List Token) : Prop :=
  ∃ d : ValueTree, ts = d.tokens ++ rest ∧ d.Denotes ctx v

/-- Pairs and the closing brace at the front of tokens. -/
def HasPairs (ctx : Context η) (ts : List Token) (members : List (String × Node η))
    (rest : List Token) : Prop :=
  ∃ (pairs : PairsTree) (right : Token.Of .rbrace),
    ts = pairs.tokens ++ right.val :: rest ∧ pairs.Denotes ctx members

/-- The rest of an object behind its opening brace. -/
inductive ObjectRest (ctx : Context η) : List Token → List (String × Node η) → List Token → Prop
  | close (right : Token.Of .rbrace) {rest} : ObjectRest ctx (right.val :: rest) [] rest
  | pairs {ts members rest} (pairs : HasPairs ctx ts members rest) :
      ObjectRest ctx ts members rest

/-- The rest of an object behind one of its pairs. -/
inductive PairRest (ctx : Context η) : List Token → List (String × Node η) → List Token → Prop
  | close (right : Token.Of .rbrace) {rest} : PairRest ctx (right.val :: rest) [] rest
  | comma (comma : Token.Of .comma) {ts members rest} (pairs : HasPairs ctx ts members rest) :
      PairRest ctx (comma.val :: ts) members rest

/-- The rest of a range behind the comma. -/
inductive MaxRest (min : Int64) : List Token → Range → List Token → Prop
  | max (max : Token.Of .integer) (right : Token.Of .rparen) {n rest}
      (upper : Text.readInt64? max.val.literal.toList = some n) (order : min ≤ n) :
      MaxRest min (max.val :: right.val :: rest) ⟨min, n, order⟩ rest

/-- The rest of a range behind its first number. -/
inductive MinRest (min : Int64) : List Token → Range → List Token → Prop
  | close (right : Token.Of .rparen) {rest} : MinRest min (right.val :: rest) (Range.fixed min) rest
  | comma (comma : Token.Of .comma) {ts bounds rest} (behind : MaxRest min ts bounds rest) :
      MinRest min (comma.val :: ts) bounds rest

/-- The rest of a range behind its opening parenthesis. -/
inductive RangeRest : List Token → Range → List Token → Prop
  | min (min : Token.Of .integer) {m ts bounds rest}
      (lower : Text.readInt64? min.val.literal.toList = some m)
      (behind : MinRest m ts bounds rest) : RangeRest (min.val :: ts) bounds rest

/-- The rest of a list behind the range of its length. -/
inductive LengthRest (ctx : Context η) (bounds : Range) :
    List Token → Node η → List Token → Prop
  | comma (comma : Token.Of .comma) (right : Token.Of .rbracket) {ts v rest}
      (element : HasValue ctx ts v (right.val :: rest)) :
      LengthRest ctx bounds (comma.val :: ts) (.array (some bounds) v) rest

/-- The rest of a list behind its opening bracket. -/
inductive ArrayRest (ctx : Context η) : List Token → Node η → List Token → Prop
  | close (right : Token.Of .rbracket) {rest} :
      ArrayRest ctx (right.val :: rest) .emptyArray rest
  | length (left : Token.Of .lparen) {ts bounds ts' v rest} (range : RangeRest ts bounds ts')
      (countable : 0 ≤ bounds.min) (behind : LengthRest ctx bounds ts' v rest) :
      ArrayRest ctx (left.val :: ts) v rest
  | element (d : ValueTree) (right : Token.Of .rbracket) {v rest} (item : d.Denotes ctx v)
      (bare : ∀ r, d ≠ .range r) :
      ArrayRest ctx (d.tokens ++ right.val :: rest) (.array none v) rest

/-- What the open objects and lists demand of the tokens behind a complete value, to make up `root`. -/
def Resumes (ctx : Context η) : List (OpenNode η) → Node η → List Token → Node η → Prop
  | [], v, ts, root => ts = [] ∧ v = root
  | .object members key :: outer, v, ts, root =>
    ∃ others rest, PairRest ctx ts others rest ∧
      Resumes ctx outer (.object (members.reverse ++ (key, v) :: others)) rest root
  | .array length :: outer, v, ts, root =>
    ∃ (right : Token.Of .rbracket) (rest : List Token), ts = right.val :: rest ∧
      Resumes ctx outer (.array length v) rest root

/-- What is demanded behind a complete range. -/
def RangeResumes (ctx : Context η) (opened : List (OpenNode η)) (bounds : Range)
    (ts : List Token) (root : Node η) : RangeUse → Prop
  | .value => Resumes ctx opened (.range bounds) ts root
  | .length => 0 ≤ bounds.min ∧
    ∃ v rest, LengthRest ctx bounds ts v rest ∧ Resumes ctx opened v rest root

/-- The tokens complete what has been read, and make up `root`. -/
def Finishes (ctx : Context η) (reading : Reading η) (ts : List Token) (root : Node η) : Prop :=
  let opened := reading.opened
  match reading.next with
  | .start | .value => ∃ v rest, HasValue ctx ts v rest ∧ Resumes ctx opened v rest root
  | .keyOrBrace =>
    ∃ members rest, ObjectRest ctx ts members rest ∧ Resumes ctx opened (.object members) rest root
  | .key members =>
    ∃ others rest, HasPairs ctx ts others rest ∧
      Resumes ctx opened (.object (members.reverse ++ others)) rest root
  | .colon members key =>
    ∃ (colon : Token.Of .colon) (ts' : List Token) (v : Node η) (rest : List Token),
      ts = colon.val :: ts' ∧ HasValue ctx ts' v rest ∧
        Resumes ctx (.object members key :: opened) v rest root
  | .commaOrBrace members =>
    ∃ others rest, PairRest ctx ts others rest ∧
      Resumes ctx opened (.object (members.reverse ++ others)) rest root
  | .elementOrBracket => ∃ v rest, ArrayRest ctx ts v rest ∧ Resumes ctx opened v rest root
  | .rangeMin use => ∃ bounds rest, RangeRest ts bounds rest ∧
      RangeResumes ctx opened bounds rest root use
  | .rangeSeparator use min => ∃ bounds rest, MinRest min ts bounds rest ∧
      RangeResumes ctx opened bounds rest root use
  | .rangeMax use min => ∃ bounds rest, MaxRest min ts bounds rest ∧
      RangeResumes ctx opened bounds rest root use
  | .rangeClose use bounds =>
    ∃ (right : Token.Of .rparen) (rest : List Token), ts = right.val :: rest ∧
      RangeResumes ctx opened bounds rest root use
  | .lengthComma bounds =>
    ∃ v rest, LengthRest ctx bounds ts v rest ∧ Resumes ctx opened v rest root
  | .bracket length element =>
    ∃ (right : Token.Of .rbracket) (rest : List Token), ts = right.val :: rest ∧
      Resumes ctx opened (.array length element) rest root
  | .stop v => ts = [] ∧ v = root

/-- A complete value goes into what is open around it. -/
theorem finishes_complete (ctx : Context η) (opened : List (OpenNode η)) (v : Node η)
    (ts : List Token) (root : Node η) :
    Finishes ctx (complete opened v) ts root ↔ Resumes ctx opened v ts root := by
  cases opened with
  | nil => rfl
  | cons top outer =>
    cases top with
    | object members key => simp [complete, Finishes, Resumes]
    | array length => rfl

/-! ## The first token decides -/

/-- A token of one kind is demanded, and something of the tokens behind it. -/
theorem exists_cons_iff {kind : TokenKind} (t : Token) (ts : List Token) (P : List Token → Prop) :
    (∃ (t' : Token.Of kind) (rest : List Token), t :: ts = t'.val :: rest ∧ P rest) ↔
      t.kind = kind ∧ P ts := by
  constructor
  · rintro ⟨t', rest, shape, holds⟩
    obtain ⟨rfl, rfl⟩ := List.cons.inj shape
    exact ⟨t'.property, holds⟩
  · rintro ⟨same, holds⟩
    exact ⟨⟨t, same⟩, ts, rfl, holds⟩

theorem hasPairs_cons_iff (ctx : Context η) (t : Token) (ts rest : List Token)
    (members : List (String × Node η)) :
    HasPairs ctx (t :: ts) members rest ↔
      t.kind = .string ∧ ∃ (colon : Token.Of .colon) (ts' : List Token) (v : Node η)
        (behind : List Token) (others : List (String × Node η)), ts = colon.val :: ts' ∧
        HasValue ctx ts' v behind ∧ PairRest ctx behind others rest ∧
        members = (t.literal, v) :: others := by
  constructor
  · rintro ⟨pairs, right, shape, stands⟩
    cases stands with
    | @last key colon value node member =>
      simp only [PairsTree.tokens, List.cons_append, List.cons.injEq] at shape
      obtain ⟨rfl, rfl⟩ := shape
      exact ⟨key.property, colon, _, _, _, _, rfl, ⟨value, rfl, member⟩, .close right, rfl⟩
    | @more key colon value comma others node members member listed =>
      simp only [PairsTree.tokens, List.cons_append, List.append_assoc, List.cons.injEq] at shape
      obtain ⟨rfl, rfl⟩ := shape
      exact ⟨key.property, colon, _, _, _, _, rfl, ⟨value, rfl, member⟩,
        .comma comma ⟨others, right, rfl, listed⟩, rfl⟩
  · rintro ⟨kind, colon, ts', v, behind, others, rfl, ⟨value, rfl, member⟩, pairRest, rfl⟩
    cases pairRest with
    | close right =>
      exact ⟨.last ⟨t, kind⟩ colon value, right, rfl, .last member⟩
    | comma comma pairs =>
      obtain ⟨pairs, right, rfl, listed⟩ := pairs
      refine ⟨.more ⟨t, kind⟩ colon value comma pairs, right, ?_, .more member listed⟩
      simp [PairsTree.tokens]

/-- A range behind its opening parenthesis. -/
theorem rangeTree_iff {t : Token} (kind : t.kind = .lparen) (ts rest : List Token)
    (bounds : Range) :
    (∃ r : RangeTree, t :: ts = r.tokens ++ rest ∧ r.Denotes bounds) ↔
      RangeRest ts bounds rest := by
  constructor
  · rintro ⟨r, shape, stands⟩
    cases stands with
    | @one left bound right n integer =>
      simp only [RangeTree.tokens, List.cons_append, List.nil_append, List.cons.injEq] at shape
      obtain ⟨rfl, rfl⟩ := shape
      exact .min bound integer (.close right)
    | @two left min comma max right m n lower upper order =>
      simp only [RangeTree.tokens, List.cons_append, List.nil_append, List.cons.injEq] at shape
      obtain ⟨rfl, rfl⟩ := shape
      exact .min min lower (.comma comma (.max max right upper order))
  · rintro ⟨min, lower, behind⟩
    cases behind with
    | close right => exact ⟨.one ⟨t, kind⟩ min right, rfl, .one lower⟩
    | comma comma behind =>
      cases behind with
      | max max right upper order =>
        exact ⟨.two ⟨t, kind⟩ min comma max right, rfl, .two lower upper order⟩

theorem hasValue_lparen_iff (ctx : Context η) {t : Token} (kind : t.kind = .lparen)
    (ts rest : List Token) (v : Node η) :
    HasValue ctx (t :: ts) v rest ↔ ∃ bounds, RangeRest ts bounds rest ∧ v = .range bounds := by
  constructor
  · rintro ⟨d, shape, stands⟩
    obtain ⟨r, rfl⟩ :=
      ValueTree.range_of_firstKind ((ValueTree.firstKind_of_cons shape).trans kind)
    cases stands with
    | range bounded => exact ⟨_, (rangeTree_iff kind ts rest _).mp ⟨r, shape, bounded⟩, rfl⟩
  · rintro ⟨bounds, range, rfl⟩
    obtain ⟨r, shape, bounded⟩ := (rangeTree_iff kind ts rest bounds).mpr range
    exact ⟨.range r, shape, .range bounded⟩

theorem hasValue_lbrace_iff (ctx : Context η) {t : Token} (kind : t.kind = .lbrace)
    (ts rest : List Token) (v : Node η) :
    HasValue ctx (t :: ts) v rest ↔
      ∃ members, ObjectRest ctx ts members rest ∧ v = .object members := by
  constructor
  · rintro ⟨d, shape, stands⟩
    have first := (ValueTree.firstKind_of_cons shape).trans kind
    cases stands with
    | @leaf t' => exact absurd first (t'.kind_ne rfl)
    | emptyObject =>
      simp only [ValueTree.tokens, List.cons_append, List.nil_append, List.cons.injEq] at shape
      obtain ⟨rfl, rfl⟩ := shape
      exact ⟨[], .close _, rfl⟩
    | @object left pairs right members listed =>
      simp only [ValueTree.tokens, List.cons_append, List.append_assoc, List.nil_append,
        List.cons.injEq] at shape
      exact ⟨members, .pairs ⟨pairs, right, shape.2, listed⟩, rfl⟩
    | _ => cases first
  · rintro ⟨members, object, rfl⟩
    cases object with
    | close right => exact ⟨.emptyObject ⟨t, kind⟩ right, rfl, .emptyObject⟩
    | pairs pairs =>
      obtain ⟨pairs, right, rfl, listed⟩ := pairs
      refine ⟨.object ⟨t, kind⟩ pairs right, ?_, .object listed⟩
      simp [ValueTree.tokens]

theorem hasValue_lbracket_iff (ctx : Context η) {t : Token} (kind : t.kind = .lbracket)
    (ts rest : List Token) (v : Node η) :
    HasValue ctx (t :: ts) v rest ↔ ArrayRest ctx ts v rest := by
  constructor
  · rintro ⟨d, shape, stands⟩
    have first := (ValueTree.firstKind_of_cons shape).trans kind
    cases stands with
    | @leaf t' => exact absurd first (t'.kind_ne rfl)
    | emptyArray =>
      simp only [ValueTree.tokens, List.cons_append, List.nil_append, List.cons.injEq] at shape
      obtain ⟨rfl, rfl⟩ := shape
      exact .close _
    | @array left element right node item bare =>
      simp only [ValueTree.tokens, List.cons_append, List.append_assoc, List.nil_append,
        List.cons.injEq] at shape
      obtain ⟨rfl, rfl⟩ := shape
      exact .element element right item bare
    | @sizedArray left length comma element right bounds node bounded countable item =>
      simp only [ValueTree.tokens, List.cons_append, List.append_assoc, List.nil_append,
        List.cons.injEq] at shape
      obtain ⟨rfl, rfl⟩ := shape
      obtain ⟨paren, inner, tokens, kind'⟩ := length.tokens_eq_cons
      have range : RangeRest (inner ++ comma.val :: (element.tokens ++ right.val :: rest)) bounds
          (comma.val :: (element.tokens ++ right.val :: rest)) :=
        (rangeTree_iff kind' _ _ _).mp ⟨length, by rw [tokens]; rfl, bounded⟩
      rw [tokens]
      exact .length ⟨paren, kind'⟩ range countable (.comma comma right ⟨element, rfl, item⟩)
    | _ => cases first
  · intro array
    cases array with
    | close right => exact ⟨.emptyArray ⟨t, kind⟩ right, rfl, .emptyArray⟩
    | @length left ts' bounds behind v rest range countable lengthRest =>
      cases lengthRest with
      | @comma comma right after v rest element =>
        obtain ⟨element, rfl, item⟩ := element
        obtain ⟨r, shape, bounded⟩ :=
          (rangeTree_iff left.property ts' _ bounds).mpr range
        refine ⟨.sizedArray ⟨t, kind⟩ r comma element right, ?_,
          .sizedArray bounded countable item⟩
        simp [ValueTree.tokens, shape]
    | element d right item bare =>
      refine ⟨.array ⟨t, kind⟩ d right, ?_, .array item bare⟩
      simp [ValueTree.tokens]

/-- A token that opens nothing is a value only by itself. -/
theorem hasValue_leaf_iff (ctx : Context η) {t : Token}
    (other : t.kind ∉ [TokenKind.lbrace, .lbracket, .lparen]) (ts rest : List Token)
    (v : Node η) : HasValue ctx (t :: ts) v rest ↔ t.Denotes ctx v ∧ rest = ts := by
  constructor
  · rintro ⟨d, shape, stands⟩
    have first := ValueTree.firstKind_of_cons shape
    cases stands with
    | leaf token =>
      simp only [ValueTree.tokens, List.cons_append, List.nil_append, List.cons.injEq] at shape
      obtain ⟨rfl, rfl⟩ := shape
      exact ⟨token, rfl⟩
    | _ => simp [← first, ValueTree.firstKind] at other
  · rintro ⟨token, rfl⟩
    have leaf : t.kind.isLeaf = true := by
      have read := (leaf?_eq_ok_iff ctx t v).mpr token
      by_contra h
      rw [(leaf?_eq_none_iff ctx t).mpr (by simpa using h)] at read
      cases read
    exact ⟨.leaf ⟨t, leaf⟩, rfl, .leaf token⟩

/-! ## One step -/

/-- The next place of a step that goes on. -/
theorem exists_ok_iff (next : Reading η) (P : Reading η → Prop) :
    (∃ r, (.ok next : Except SchemaError (Reading η)) = .ok r ∧ P r) ↔ P next := by
  simp

/-- Taking the first token of a value. -/
theorem finishes_takeValue (ctx : Context η) (opened : List (OpenNode η)) (t : Token)
    (ts : List Token) (root : Node η) :
    (∃ next, takeValue ctx opened t = .ok next ∧ Finishes ctx next ts root) ↔
      ∃ v rest, HasValue ctx (t :: ts) v rest ∧ Resumes ctx opened v rest root := by
  unfold takeValue
  split
  · next kind =>
    simp only [hasValue_lbrace_iff ctx kind, exists_ok_iff, Finishes]
    constructor
    · rintro ⟨members, rest, object, resumes⟩
      exact ⟨_, rest, ⟨members, object, rfl⟩, resumes⟩
    · rintro ⟨_, rest, ⟨members, object, rfl⟩, resumes⟩
      exact ⟨members, rest, object, resumes⟩
  · next kind => simp only [hasValue_lbracket_iff ctx kind, exists_ok_iff, Finishes]
  · next kind =>
    simp only [hasValue_lparen_iff ctx kind, exists_ok_iff, Finishes, RangeResumes]
    constructor
    · rintro ⟨bounds, rest, range, resumes⟩
      exact ⟨_, rest, ⟨bounds, range, rfl⟩, resumes⟩
    · rintro ⟨_, rest, ⟨bounds, range, rfl⟩, resumes⟩
      exact ⟨bounds, rest, range, resumes⟩
  · next brace bracket paren =>
    have other : t.kind ∉ [TokenKind.lbrace, .lbracket, .lparen] := by
      simp only [List.mem_cons, List.not_mem_nil, or_false, not_or]
      exact ⟨brace, bracket, paren⟩
    simp only [hasValue_leaf_iff ctx other, ← leaf?_eq_ok_iff]
    cases leaf? ctx t with
    | none => simp [refuse]
    | some result =>
      cases result with
      | error e => simp [bind, Except.bind]
      | ok node => simp [bind, Except.bind, pure, Except.pure, finishes_complete]

/-- Taking a key. -/
theorem finishes_takeKey (ctx : Context η) (members : List (String × Node η))
    (opened : List (OpenNode η)) (t : Token) (ts : List Token) (root : Node η) :
    (∃ next, takeKey members opened t = .ok next ∧ Finishes ctx next ts root) ↔
      ∃ others rest, HasPairs ctx (t :: ts) others rest ∧
        Resumes ctx opened (.object (members.reverse ++ others)) rest root := by
  simp only [hasPairs_cons_iff, takeKey]
  by_cases kind : t.kind = .string
  · simp only [if_pos kind, exists_ok_iff, Finishes, Resumes]
    constructor
    · rintro ⟨colon, ts', v, behind, rfl, value, others, rest, pairRest, resumes⟩
      exact ⟨_, rest, ⟨kind, colon, ts', v, behind, others, rfl, value, pairRest, rfl⟩, resumes⟩
    · rintro ⟨_, rest, ⟨-, colon, ts', v, behind, others, rfl, value, pairRest, rfl⟩, resumes⟩
      exact ⟨colon, ts', v, behind, rfl, value, others, rest, pairRest, resumes⟩
  · simp [kind, refuse]

/-- A range is complete; as a length it must not be negative. -/
theorem finishes_completeRange (ctx : Context η) (use : RangeUse) (opened : List (OpenNode η))
    (bounds : Range) (ts : List Token) (root : Node η) :
    (∃ next, completeRange use opened bounds = .ok next ∧ Finishes ctx next ts root) ↔
      RangeResumes ctx opened bounds ts root use := by
  cases use with
  | value => simp only [completeRange, exists_ok_iff, finishes_complete, RangeResumes]
  | length =>
    simp only [completeRange, RangeResumes]
    by_cases negative : bounds.min < 0
    · simp [negative, Int64.not_le.mpr negative]
    · simp [negative, Int64.not_lt.mp negative, Finishes]

/-- A token of the kind that is wanted leads on. -/
theorem finishes_takeKind (ctx : Context η) (kind : TokenKind) (t : Token) (reading : Reading η)
    (ts : List Token) (root : Node η) :
    (∃ next, takeKind kind t reading = .ok next ∧ Finishes ctx next ts root) ↔
      t.kind = kind ∧ Finishes ctx reading ts root := by
  unfold takeKind
  by_cases h : t.kind = kind <;> simp [h, refuse]

theorem pairRest_cons_iff (ctx : Context η) (t : Token) (ts rest : List Token)
    (others : List (String × Node η)) :
    PairRest ctx (t :: ts) others rest ↔
      (t.kind = .rbrace ∧ others = [] ∧ rest = ts) ∨
        (t.kind = .comma ∧ HasPairs ctx ts others rest) := by
  constructor
  · rintro (right | ⟨comma, pairs⟩)
    · exact .inl ⟨right.property, rfl, rfl⟩
    · exact .inr ⟨comma.property, pairs⟩
  · rintro (⟨kind, rfl, rfl⟩ | ⟨kind, pairs⟩)
    · exact .close ⟨t, kind⟩
    · exact .comma ⟨t, kind⟩ pairs

theorem objectRest_cons_iff (ctx : Context η) (t : Token) (ts rest : List Token)
    (members : List (String × Node η)) :
    ObjectRest ctx (t :: ts) members rest ↔
      (t.kind = .rbrace ∧ members = [] ∧ rest = ts) ∨ HasPairs ctx (t :: ts) members rest := by
  constructor
  · rintro (right | pairs)
    · exact .inl ⟨right.property, rfl, rfl⟩
    · exact .inr pairs
  · rintro (⟨kind, rfl, rfl⟩ | pairs)
    · exact .close ⟨t, kind⟩
    · exact .pairs pairs

theorem minRest_cons_iff (min : Int64) (t : Token) (ts rest : List Token) (bounds : Range) :
    MinRest min (t :: ts) bounds rest ↔
      (t.kind = .rparen ∧ bounds = Range.fixed min ∧ rest = ts) ∨
        (t.kind = .comma ∧ MaxRest min ts bounds rest) := by
  constructor
  · rintro (right | ⟨comma, behind⟩)
    · exact .inl ⟨right.property, rfl, rfl⟩
    · exact .inr ⟨comma.property, behind⟩
  · rintro (⟨kind, rfl, rfl⟩ | ⟨kind, behind⟩)
    · exact .close ⟨t, kind⟩
    · exact .comma ⟨t, kind⟩ behind

theorem arrayRest_cons_iff (ctx : Context η) (t : Token) (ts rest : List Token) (v : Node η) :
    ArrayRest ctx (t :: ts) v rest ↔
      (t.kind = .rbracket ∧ v = .emptyArray ∧ rest = ts) ∨
      (t.kind = .lparen ∧ ∃ bounds behind, RangeRest ts bounds behind ∧ 0 ≤ bounds.min ∧
        LengthRest ctx bounds behind v rest) ∨
      (t.kind ≠ .lparen ∧ ∃ (item : Node η) (right : Token.Of .rbracket),
        HasValue ctx (t :: ts) item (right.val :: rest) ∧ v = .array none item) := by
  constructor
  · intro array
    generalize shape : t :: ts = tokens at array
    cases array with
    | close right =>
      obtain ⟨rfl, rfl⟩ := List.cons.inj shape
      exact .inl ⟨right.property, rfl, rfl⟩
    | length left range countable behind =>
      obtain ⟨rfl, rfl⟩ := List.cons.inj shape
      exact .inr (.inl ⟨left.property, _, _, range, countable, behind⟩)
    | element d right item bare =>
      refine .inr (.inr ⟨fun kind => ?_, _, right, ⟨d, rfl, item⟩, rfl⟩)
      obtain ⟨r, rfl⟩ :=
        ValueTree.range_of_firstKind ((ValueTree.firstKind_of_cons shape).trans kind)
      exact bare r rfl
  · rintro (⟨kind, rfl, rfl⟩ | ⟨kind, bounds, behind, range, countable, lengthRest⟩ |
      ⟨kind, item, right, ⟨d, shape, stands⟩, rfl⟩)
    · exact .close ⟨t, kind⟩
    · exact .length ⟨t, kind⟩ range countable lengthRest
    · rw [shape]
      refine .element d right stands ?_
      rintro r rfl
      exact kind (ValueTree.firstKind_of_cons shape).symm

theorem not_hasValue_rbracket (ctx : Context η) {t : Token} (kind : t.kind = .rbracket)
    (ts rest : List Token) (v : Node η) : ¬ HasValue ctx (t :: ts) v rest := by
  rintro ⟨d, shape, -⟩
  exact d.firstKind_ne (by decide) ((ValueTree.firstKind_of_cons shape).trans kind)

theorem not_hasPairs_rbrace (ctx : Context η) {t : Token} (kind : t.kind = .rbrace)
    (ts rest : List Token) (members : List (String × Node η)) :
    ¬ HasPairs ctx (t :: ts) members rest := by
  simp [hasPairs_cons_iff, kind]

/-- Behind an opening bracket. A parenthesis begins a length, and any other token a single element. -/
theorem finishes_element (ctx : Context η) (opened : List (OpenNode η)) (t : Token)
    (ts : List Token) (root : Node η) :
    (∃ next, step ctx ⟨.elementOrBracket, opened⟩ t = .ok next ∧ Finishes ctx next ts root) ↔
      Finishes ctx ⟨.elementOrBracket, opened⟩ (t :: ts) root := by
  change _ ↔ ∃ v rest, ArrayRest ctx (t :: ts) v rest ∧ Resumes ctx opened v rest root
  simp only [step, arrayRest_cons_iff]
  split
  · next kind =>
    simp [kind, finishes_complete, not_hasValue_rbracket ctx kind]
  · next bracket =>
    split
    · next kind =>
      simp only [exists_ok_iff, Finishes, RangeResumes, kind]
      constructor
      · rintro ⟨bounds, behind, range, countable, v, rest, lengthRest, resumes⟩
        exact ⟨v, rest, .inr (.inl ⟨trivial, bounds, behind, range, countable, lengthRest⟩),
          resumes⟩
      · rintro ⟨v, rest, ⟨h, -⟩ | ⟨-, bounds, behind, range, countable, lengthRest⟩ | ⟨h, -⟩,
          resumes⟩
        · cases h
        · exact ⟨bounds, behind, range, countable, v, rest, lengthRest, resumes⟩
        · exact absurd rfl h
    · next paren =>
      simp only [finishes_takeValue, Resumes]
      constructor
      · rintro ⟨item, behind, value, right, rest, rfl, resumes⟩
        exact ⟨_, rest, .inr (.inr ⟨paren, item, right, value, rfl⟩), resumes⟩
      · rintro ⟨v, rest, ⟨h, -⟩ | ⟨h, -⟩ | ⟨-, item, right, value, rfl⟩, resumes⟩
        · exact absurd h bracket
        · exact absurd h paren
        · exact ⟨item, _, value, right, rest, rfl, resumes⟩

theorem rangeRest_cons_iff (t : Token) (ts rest : List Token) (bounds : Range) :
    RangeRest (t :: ts) bounds rest ↔
      t.kind = .integer ∧ ∃ m, readInteger t = .ok m ∧ MinRest m ts bounds rest := by
  simp only [readInteger_eq_ok_iff]
  constructor
  · rintro ⟨min, lower, behind⟩
    exact ⟨min.property, _, lower, behind⟩
  · rintro ⟨kind, m, lower, behind⟩
    exact .min ⟨t, kind⟩ lower behind

theorem maxRest_cons_iff (min : Int64) (t : Token) (ts rest : List Token) (bounds : Range) :
    MaxRest min (t :: ts) bounds rest ↔
      t.kind = .integer ∧ ∃ max, readInteger t = .ok max ∧ Range.of? min max = some bounds ∧
        ∃ right : Token.Of .rparen, ts = right.val :: rest := by
  simp only [readInteger_eq_ok_iff]
  constructor
  · rintro ⟨max, right, upper, order⟩
    exact ⟨max.property, _, upper, by simp [Range.of?, order], right, rfl⟩
  · rintro ⟨kind, n, upper, range, right, rfl⟩
    simp only [Range.of?, Option.dite_none_right_eq_some, Option.some.injEq] at range
    obtain ⟨order, rfl⟩ := range
    exact .max ⟨t, kind⟩ right upper order

theorem lengthRest_cons_iff (ctx : Context η) (length : Range) (t : Token) (ts rest : List Token)
    (v : Node η) :
    LengthRest ctx length (t :: ts) v rest ↔
      t.kind = .comma ∧ ∃ (item : Node η) (right : Token.Of .rbracket),
        HasValue ctx ts item (right.val :: rest) ∧ v = .array (some length) item := by
  constructor
  · rintro ⟨comma, right, element⟩
    exact ⟨comma.property, _, right, element, rfl⟩
  · rintro ⟨kind, item, right, element, rfl⟩
    exact .comma ⟨t, kind⟩ right element

/-- A step takes its token off what is demanded, or is refused where nothing can be demanded. -/
theorem finishes_cons_iff (ctx : Context η) (reading : Reading η) (t : Token)
    (more : t.kind ≠ .eof) (ts : List Token) (root : Node η) :
    (∃ next, reading.step ctx t = .ok next ∧ Finishes ctx next ts root) ↔
      Finishes ctx reading (t :: ts) root := by
  obtain ⟨next, opened⟩ := reading
  cases next with
  | start =>
    simp only [step, if_neg more, finishes_takeValue]
    rfl
  | value => exact finishes_takeValue ctx opened t ts root
  | keyOrBrace =>
    change _ ↔ ∃ members rest, ObjectRest ctx (t :: ts) members rest ∧
      Resumes ctx opened (.object members) rest root
    simp only [step, objectRest_cons_iff]
    split
    · next kind => simp [kind, finishes_complete, not_hasPairs_rbrace ctx kind]
    · next kind => simp [kind, finishes_takeKey]
  | key members => exact finishes_takeKey ctx members opened t ts root
  | colon members key =>
    simp only [step, finishes_takeKind]
    constructor
    · rintro ⟨kind, v, rest, value, resumes⟩
      exact ⟨⟨t, kind⟩, ts, v, rest, rfl, value, resumes⟩
    · rintro ⟨colon, ts', v, rest, shape, value, resumes⟩
      obtain ⟨rfl, rfl⟩ := List.cons.inj shape
      exact ⟨colon.property, v, rest, value, resumes⟩
  | commaOrBrace members =>
    change _ ↔ ∃ others rest, PairRest ctx (t :: ts) others rest ∧
      Resumes ctx opened (.object (members.reverse ++ others)) rest root
    simp only [step, pairRest_cons_iff]
    split
    · next kind => simp [kind, Finishes]
    · next comma =>
      split
      · next kind => simp [kind, finishes_complete]
      · next brace => simp [comma, brace, refuse]
  | elementOrBracket => exact finishes_element ctx opened t ts root
  | rangeMin use =>
    change _ ↔ ∃ bounds rest, RangeRest (t :: ts) bounds rest ∧
      RangeResumes ctx opened bounds rest root use
    simp only [step, rangeRest_cons_iff]
    split
    · next kind =>
      cases readInteger t with
      | error e => simp [bind, Except.bind]
      | ok m => simp [kind, bind, Except.bind, pure, Except.pure, Finishes]
    · next kind => simp [kind, refuse]
  | rangeSeparator use min =>
    change _ ↔ ∃ bounds rest, MinRest min (t :: ts) bounds rest ∧
      RangeResumes ctx opened bounds rest root use
    simp only [step, minRest_cons_iff]
    split
    · next kind => simp [kind, finishes_completeRange]
    · next paren =>
      split
      · next kind => simp [kind, Finishes]
      · next comma => simp [comma, paren, refuse]
  | rangeMax use min =>
    change _ ↔ ∃ bounds rest, MaxRest min (t :: ts) bounds rest ∧
      RangeResumes ctx opened bounds rest root use
    simp only [step, maxRest_cons_iff]
    split
    · next kind =>
      cases readInteger t with
      | error e => simp [bind, Except.bind]
      | ok max =>
        cases range : Range.of? min max with
        | none => simp [range, bind, Except.bind]
        | some bounds =>
          simp only [kind, range, bind, Except.bind, pure, Except.pure, exists_ok_iff, Finishes]
          constructor
          · rintro ⟨right, rest, rfl, resumes⟩
            exact ⟨bounds, rest, ⟨trivial, max, rfl, range, right, rfl⟩, resumes⟩
          · rintro ⟨bounds', rest, ⟨-, max', h, range', right, rfl⟩, resumes⟩
            cases h
            cases range.symm.trans range'
            exact ⟨right, rest, rfl, resumes⟩
    · next kind => simp [kind, refuse]
  | rangeClose use bounds =>
    change _ ↔ ∃ (right : Token.Of .rparen) (rest : List Token), t :: ts = right.val :: rest ∧
      RangeResumes ctx opened bounds rest root use
    rw [exists_cons_iff t ts (RangeResumes ctx opened bounds · root use)]
    simp only [step]
    split
    · next kind => simp only [kind, finishes_completeRange, true_and]
    · next kind => simp [kind, refuse]
  | lengthComma length =>
    change _ ↔ ∃ v rest, LengthRest ctx length (t :: ts) v rest ∧ Resumes ctx opened v rest root
    simp only [step, finishes_takeKind, lengthRest_cons_iff]
    constructor
    · rintro ⟨kind, item, _, element, right, rest, rfl, resumes⟩
      exact ⟨_, rest, ⟨kind, item, right, element, rfl⟩, resumes⟩
    · rintro ⟨_, rest, ⟨kind, item, right, element, rfl⟩, resumes⟩
      exact ⟨kind, item, _, element, right, rest, rfl, resumes⟩
  | bracket length element =>
    change _ ↔ ∃ (right : Token.Of .rbracket) (rest : List Token), t :: ts = right.val :: rest ∧
      Resumes ctx opened (.array length element) rest root
    rw [exists_cons_iff t ts (Resumes ctx opened (.array length element) · root)]
    simp only [step]
    split
    · next kind => simp only [kind, exists_ok_iff, finishes_complete, true_and]
    · next kind => simp [kind, refuse]
  | stop v =>
    refine iff_of_false ?_ (by simp [Finishes])
    simp [step, takeKind, more, refuse]

/-! ## A whole run -/

theorem not_hasValue_nil (ctx : Context η) (v : Node η) (rest : List Token) :
    ¬ HasValue ctx [] v rest := by
  rintro ⟨d, shape, -⟩
  obtain ⟨t, ts, h, -⟩ := d.tokens_eq_cons
  simp [h] at shape

theorem not_hasPairs_nil (ctx : Context η) (members : List (String × Node η))
    (rest : List Token) : ¬ HasPairs ctx [] members rest := by
  rintro ⟨pairs, right, shape, -⟩
  simp at shape

theorem not_arrayRest_nil (ctx : Context η) (v : Node η) (rest : List Token) :
    ¬ ArrayRest ctx [] v rest := by
  intro array
  generalize shape : [] = tokens at array
  cases array <;> simp at shape

/-- Whatever is demanded before the end begins with a token. -/
theorem finishes_nil_iff (ctx : Context η) (reading : Reading η) (root : Node η) :
    Finishes ctx reading [] root ↔ reading.next = .stop root := by
  obtain ⟨next, opened⟩ := reading
  cases next with
  | stop v => simp [Finishes]
  | start | value => simp [Finishes, not_hasValue_nil]
  | key members => simp [Finishes, not_hasPairs_nil]
  | colon members key => simp [Finishes]
  | elementOrBracket => simp [Finishes, not_arrayRest_nil]
  | rangeClose use bounds => simp [Finishes]
  | bracket length element => simp [Finishes]
  | keyOrBrace =>
    refine iff_of_false ?_ (by simp)
    rintro ⟨members, rest, object, -⟩
    cases object with | pairs pairs =>
    exact not_hasPairs_nil ctx members rest pairs
  | commaOrBrace members | rangeMin use | rangeSeparator use min | rangeMax use min
  | lengthComma length =>
    refine iff_of_false ?_ (by simp)
    rintro ⟨_, _, ⟨⟩, -⟩

/-- The end token is taken only behind the root, and changes nothing. -/
theorem step_eof_iff (ctx : Context η) (reading next : Reading η) {t : Token}
    (eof : t.kind = .eof) :
    reading.step ctx t = .ok next ↔ (∃ root, reading.next = .stop root) ∧ next = reading := by
  obtain ⟨wanted, opened⟩ := reading
  cases wanted <;> simp [step, takeValue, takeKey, takeKind, leaf?, refuse, eof, eq_comm]

/-- A run succeeds exactly if the tokens up to the end token complete what has been read. -/
theorem run_eq_ok_iff (ctx : Context η) {last : Token} (eof : last.kind = .eof)
    (reading : Reading η) (ts : List Token) (root : Node η) :
    (∃ stopped, run ctx last reading ts = .ok stopped ∧ stopped.next = .stop root) ↔
      Finishes ctx reading (Token.sentence ts) root := by
  have atEnd : ∀ {t : Token} (reading : Reading η), t.kind = .eof →
      ((∃ stopped, reading.step ctx t = .ok stopped ∧ stopped.next = .stop root) ↔
        Finishes ctx reading [] root) := by
    intro t reading eof
    rw [finishes_nil_iff]
    constructor
    · rintro ⟨stopped, taken, stops⟩
      exact ((step_eof_iff ctx reading stopped eof).mp taken).2 ▸ stops
    · exact fun stops => ⟨reading, (step_eof_iff ctx reading _ eof).mpr ⟨⟨root, stops⟩, rfl⟩, stops⟩
  induction ts generalizing reading with
  | nil => exact atEnd reading eof
  | cons t ts ih =>
    by_cases stops : t.kind = .eof
    · simp only [run, Token.sentence, stops, if_true]
      rw [List.takeWhile_cons_of_neg (by simp [stops]), ← atEnd reading stops]
      cases reading.step ctx t <;> simp [bind, Except.bind, pure, Except.pure]
    · have sentence : Token.sentence (t :: ts) = t :: Token.sentence ts :=
        List.takeWhile_cons_of_pos (by simp [stops])
      rw [sentence, ← finishes_cons_iff ctx reading t stops]
      simp only [run, if_neg stops, ← ih]
      cases reading.step ctx t <;> simp [bind, Except.bind]

/-- A run that succeeds has read a root. -/
theorem stops_of_run_ok (ctx : Context η) {last : Token} (eof : last.kind = .eof)
    {reading stopped : Reading η} {ts : List Token} (ran : run ctx last reading ts = .ok stopped) :
    ∃ root, stopped.next = .stop root := by
  have atEnd : ∀ {t : Token} {reading : Reading η}, t.kind = .eof →
      reading.step ctx t = .ok stopped → ∃ root, stopped.next = .stop root := by
    intro t reading eof taken
    obtain ⟨stops, rfl⟩ := (step_eof_iff ctx reading stopped eof).mp taken
    exact stops
  induction ts generalizing reading with
  | nil => exact atEnd eof ran
  | cons t ts ih =>
    obtain ⟨next, taken, ran⟩ := (bind_eq_ok_iff ..).mp ran
    split at ran
    · next stops => exact atEnd stops (taken.trans ran)
    · exact ih ran

end Reading

namespace Schema

theorem endOf_kind (tokens : List Token) : (Token.endOf tokens).kind = .eof := by
  unfold Token.endOf
  split <;> rfl

/-- Tokens are read as a schema exactly if they have a correct derivation. -/
theorem ofTokens_eq_ok (ctx : Context η) (tokens : List Token) (schema : Schema η) :
    ofTokens ctx tokens = .ok schema ↔
      ∃ d : ValueTree, d.tokens = Token.sentence tokens ∧
        ∃ root, d.Denotes ctx root ∧ schema = ⟨some root⟩ := by
  have run := Reading.run_eq_ok_iff ctx (endOf_kind tokens) Reading.initial tokens
  constructor
  · intro read
    obtain ⟨stopped, ran, read⟩ := (bind_eq_ok_iff ..).mp read
    obtain ⟨root, stops⟩ := Reading.stops_of_run_ok ctx (endOf_kind tokens) ran
    obtain ⟨v, rest, ⟨d, shape, stands⟩, rfl, rfl⟩ := (run root).mp ⟨stopped, ran, stops⟩
    rw [stops] at read
    cases read
    exact ⟨d, by simpa using shape.symm, v, stands, rfl⟩
  · rintro ⟨d, shape, root, stands, rfl⟩
    obtain ⟨stopped, ran, stops⟩ :=
      (run root).mpr ⟨root, [], ⟨d, by simpa using shape.symm, stands⟩, rfl, rfl⟩
    refine (bind_eq_ok_iff ..).mpr ⟨stopped, ran, ?_⟩
    rw [stops]
    rfl

/-- Tokens are read as a schema exactly if the tokens in front of the end derive a value and the
derivation is correct in the context. There is no other derivation of these tokens, and the schema is
the node that it stands for. -/
theorem ofTokens_eq_ok_iff (ctx : Context η) (tokens : List Token) (schema : Schema η) :
    ofTokens ctx tokens = .ok schema ↔
      ∃ d : ValueTree, (∀ d' : ValueTree, d'.tokens = Token.sentence tokens ↔ d' = d) ∧
        ∃ root, d.Denotes ctx root ∧ schema = ⟨some root⟩ := by
  rw [ofTokens_eq_ok]
  constructor
  · rintro ⟨d, shape, stands⟩
    refine ⟨d, fun d' => ⟨fun h => ValueTree.tokens_inj (h.trans shape.symm), ?_⟩, stands⟩
    rintro rfl
    exact shape
  · rintro ⟨d, only, stands⟩
    exact ⟨d, (only d).mpr rfl, stands⟩

end Schema

end MockSchema
