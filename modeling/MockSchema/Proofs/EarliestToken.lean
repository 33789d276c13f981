import MockSchema.Proofs.ErrorPlaces
import MockSchema.Proofs.FirstLetter

/-!
# The earliest token that cannot be right

The sentences of the grammar are the sequences of kinds that its derivations spell, with the end behind them
(`sentences`). In the documented grammar a parenthesis directly behind an opening bracket begins a length, so no
list has a bare range as its only element (`ValueTree.IsDocumented`).

Every place of the reader has a language of what may still follow (`Reading.completions`): the rest of what is
being read, then the ends of what is open around it. A token that is taken leads to the place for the rest of these
words, and a token that is refused begins none of them (`step_leads`). Since some word completes every place, the
tokens in front of a refused one begin a sentence, and with that token they begin none
(`ofTokens_unexpected_earliest`).
-/

namespace MockSchema

open Words

/-! ## Sentences -/

mutual

/-- A list without a length has no bare range as its element, here and below. -/
def ValueTree.IsDocumented : ValueTree → Prop
  | .leaf _ | .range _ | .emptyObject .. | .emptyArray .. => True
  | .object _ pairs _ => pairs.IsDocumented
  | .array _ element _ => (∀ r, element ≠ .range r) ∧ element.IsDocumented
  | .sizedArray _ _ _ element _ => element.IsDocumented

def PairsTree.IsDocumented : PairsTree → Prop
  | .last _ _ value => value.IsDocumented
  | .more _ _ value _ rest => value.IsDocumented ∧ rest.IsDocumented

end

/-- The kinds of tokens in order. -/
def Token.kinds (ts : List Token) : List TokenKind := ts.map Token.kind

@[simp] theorem Token.kinds_nil : Token.kinds [] = [] := rfl

@[simp] theorem Token.kinds_cons (t : Token) (ts : List Token) :
    Token.kinds (t :: ts) = t.kind :: Token.kinds ts := rfl

@[simp] theorem Token.kinds_append (ts ts' : List Token) :
    Token.kinds (ts ++ ts') = Token.kinds ts ++ Token.kinds ts' := List.map_append

/-- The kinds of the tokens of a schema: those of a value, and the end. -/
def sentences : Language TokenKind :=
  {ks | ∃ d : ValueTree, d.IsDocumented ∧ ks = Token.kinds d.tokens ++ [.eof]}

/-! ## Parts of sentences -/

namespace Kinds

/-- Values. -/
def values : Language TokenKind := {ks | ∃ d : ValueTree, d.IsDocumented ∧ Token.kinds d.tokens = ks}

/-- Values other than ranges. -/
def unranged : Language TokenKind :=
  {ks | ∃ d : ValueTree, d.IsDocumented ∧ (∀ r, d ≠ .range r) ∧ Token.kinds d.tokens = ks}

/-- Pairs with the closing brace. -/
def pairsRest : Language TokenKind :=
  {ks | ∃ p : PairsTree, p.IsDocumented ∧ Token.kinds p.tokens ++ [.rbrace] = ks}

/-- The rest of an object behind its opening brace. -/
def objectRest : Language TokenKind := {[.rbrace]} + pairsRest

/-- The rest of an object behind one of its pairs. -/
def pairRest : Language TokenKind := {[.rbrace]} + {[.comma]} * pairsRest

/-- The rest of a range behind the comma. -/
def maxRest : Language TokenKind := {[.integer]} * {[.rparen]}

/-- The rest of a range behind its first number. -/
def minRest : Language TokenKind := {[.rparen]} + {[.comma]} * maxRest

/-- The rest of a range behind its opening parenthesis. -/
def rangeRest : Language TokenKind := {[.integer]} * minRest

/-- The rest of a list behind the range of its length. -/
def lengthRest : Language TokenKind := {[.comma]} * (values * {[.rbracket]})

/-- The rest of a list behind its opening bracket. -/
def arrayRest : Language TokenKind :=
  {[.rbracket]} + {[.lparen]} * (rangeRest * lengthRest) + unranged * {[.rbracket]}

/-- A token of a kind, whatever its text. -/
def token (kind : TokenKind) : Token.Of kind := ⟨⟨kind, "", 0⟩, rfl⟩

@[simp] theorem kind_of {k : TokenKind} (t : Token.Of k) : t.val.kind = k := t.property

variable {ks : List TokenKind}

theorem mem_rangeRest_iff :
    ks ∈ rangeRest ↔ ks = [.integer, .rparen] ∨ ks = [.integer, .comma, .integer, .rparen] := by
  simp [rangeRest, minRest, maxRest, mem_letter_mul_iff, mem_letter_iff, Language.mem_add, and_or_left,
    exists_or]

/-- A parenthesis and what follows it spell a range. -/
theorem exists_range_iff :
    (∃ r : RangeTree, Token.kinds r.tokens = ks) ↔
      ks ∈ ({[.lparen]} : Language TokenKind) * rangeRest := by
  simp only [mem_letter_mul_iff, mem_rangeRest_iff]
  constructor
  · rintro ⟨r, rfl⟩
    cases r with
    | one => exact ⟨_, by simp [RangeTree.tokens], .inl rfl⟩
    | two => exact ⟨_, by simp [RangeTree.tokens], .inr rfl⟩
  · rintro ⟨_, rfl, rfl | rfl⟩
    · exact ⟨.one (token _) (token _) (token _), rfl⟩
    · exact ⟨.two (token _) (token _) (token _) (token _) (token _), rfl⟩

/-- A value is a range or begins with no parenthesis. -/
theorem values_eq : values = unranged + {[.lparen]} * rangeRest := by
  ext ks
  rw [Language.mem_add, ← exists_range_iff]
  constructor
  · rintro ⟨d, documented, rfl⟩
    by_cases range : ∃ r, d = .range r
    · obtain ⟨r, rfl⟩ := range
      exact .inr ⟨r, rfl⟩
    · exact .inl ⟨d, documented, not_exists.mp range, rfl⟩
  · rintro (⟨d, documented, -, rfl⟩ | ⟨r, rfl⟩)
    · exact ⟨d, documented, rfl⟩
    · exact ⟨.range r, trivial, rfl⟩

/-- A list with a length: a range behind the bracket, and what belongs to it. -/
theorem mem_arrayRest_iff :
    ks ∈ arrayRest ↔ ks = [.rbracket] ∨
      (∃ (r : RangeTree) (d : ValueTree), d.IsDocumented ∧
        ks = Token.kinds r.tokens ++ .comma :: (Token.kinds d.tokens ++ [.rbracket])) ∨
      ∃ d : ValueTree, d.IsDocumented ∧ (∀ r, d ≠ .range r) ∧ ks = Token.kinds d.tokens ++ [.rbracket] := by
  simp only [arrayRest, Language.mem_add, mem_letter_iff, or_assoc]
  refine or_congr Iff.rfl (or_congr ?_ ?_)
  · rw [← mul_assoc, Language.mem_mul]
    simp only [← exists_range_iff, lengthRest]
    simp only [mem_letter_mul_iff]
    simp only [Language.mem_mul, mem_letter_iff]
    constructor
    · rintro ⟨_, ⟨r, rfl⟩, _, ⟨_, rfl, _, ⟨d, documented, rfl⟩, _, rfl, rfl⟩, rfl⟩
      exact ⟨r, d, documented, rfl⟩
    · rintro ⟨r, d, documented, rfl⟩
      exact ⟨_, ⟨r, rfl⟩, _, ⟨_, rfl, _, ⟨d, documented, rfl⟩, _, rfl, rfl⟩, rfl⟩
  · simp only [Language.mem_mul, mem_letter_iff]
    constructor
    · rintro ⟨_, ⟨d, documented, bare, rfl⟩, _, rfl, rfl⟩
      exact ⟨d, documented, bare, rfl⟩
    · rintro ⟨d, documented, bare, rfl⟩
      exact ⟨_, ⟨d, documented, bare, rfl⟩, _, rfl, rfl⟩

/-- A value that is no range: a token by itself, an object, or a list. -/
theorem unranged_eq :
    unranged = oneOf TokenKind.isLeaf + {[.lbrace]} * objectRest + {[.lbracket]} * arrayRest := by
  ext ks
  simp only [Language.mem_add, mem_letter_mul_iff, objectRest, mem_letter_iff, mem_arrayRest_iff]
  constructor
  · rintro ⟨d, documented, bare, rfl⟩
    cases d with
    | leaf t => exact .inl (.inl ⟨t.val.kind, rfl, t.property⟩)
    | range r => exact absurd rfl (bare r)
    | emptyObject left right => exact .inl (.inr ⟨_, by simp [ValueTree.tokens], .inl rfl⟩)
    | object left pairs right =>
      exact .inl (.inr ⟨_, by simp [ValueTree.tokens], .inr ⟨pairs, documented, rfl⟩⟩)
    | emptyArray left right => exact .inr ⟨_, by simp [ValueTree.tokens], .inl rfl⟩
    | array left element right =>
      exact .inr ⟨_, by simp [ValueTree.tokens],
        .inr (.inr ⟨element, documented.2, documented.1, rfl⟩)⟩
    | sizedArray left length comma element right =>
      exact .inr ⟨_, by simp [ValueTree.tokens], .inr (.inl ⟨length, element, documented, rfl⟩)⟩
  · rintro ((⟨k, rfl, leaf⟩ | ⟨_, rfl, rfl | ⟨pairs, documented, rfl⟩⟩) |
      ⟨_, rfl, rfl | ⟨r, d, documented, rfl⟩ | ⟨d, documented, bare, rfl⟩⟩)
    · exact ⟨.leaf ⟨⟨k, "", 0⟩, leaf⟩, trivial, fun _ => ValueTree.noConfusion, rfl⟩
    · exact ⟨.emptyObject (token _) (token _), trivial, fun _ => ValueTree.noConfusion, rfl⟩
    · exact ⟨.object (token _) pairs (token _), documented, fun _ => ValueTree.noConfusion,
        by simp [ValueTree.tokens]⟩
    · exact ⟨.emptyArray (token _) (token _), trivial, fun _ => ValueTree.noConfusion, rfl⟩
    · exact ⟨.sizedArray (token _) r (token _) d (token _), documented, fun _ => ValueTree.noConfusion,
        by simp [ValueTree.tokens]⟩
    · exact ⟨.array (token _) d (token _), ⟨bare, documented⟩, fun _ => ValueTree.noConfusion,
        by simp [ValueTree.tokens]⟩

/-- Pairs begin with a key and a colon. -/
theorem pairsRest_eq : pairsRest = {[.string]} * ({[.colon]} * (values * pairRest)) := by
  ext ks
  simp only [mem_letter_mul_iff]
  simp only [Language.mem_mul]
  simp only [pairRest, Language.mem_add, mem_letter_mul_iff, mem_letter_iff]
  constructor
  · rintro ⟨p, documented, rfl⟩
    cases p with
    | last key colon value =>
      exact ⟨_, by simp [PairsTree.tokens], _, rfl, _, ⟨value, documented, rfl⟩, _, .inl rfl, rfl⟩
    | more key colon value comma rest =>
      exact ⟨.colon :: (Token.kinds value.tokens ++ .comma :: (Token.kinds rest.tokens ++ [.rbrace])),
        by simp [PairsTree.tokens], _, rfl, _, ⟨value, documented.1, rfl⟩, _,
        .inr ⟨_, rfl, rest, documented.2, rfl⟩, rfl⟩
  · rintro ⟨_, rfl, _, rfl, _, ⟨value, documented, rfl⟩, _, rfl | ⟨_, rfl, rest, documented', rfl⟩, rfl⟩
    · exact ⟨.last (token _) (token _) value, documented, rfl⟩
    · exact ⟨.more (token _) (token _) value (token _) rest, ⟨documented, documented'⟩,
        by simp [PairsTree.tokens]⟩

theorem sentences_eq : sentences = values * {[.eof]} := by
  ext ks
  simp only [Language.mem_mul, mem_letter_iff]
  constructor
  · rintro ⟨d, documented, rfl⟩
    exact ⟨_, ⟨d, documented, rfl⟩, _, rfl, rfl⟩
  · rintro ⟨_, ⟨d, documented, rfl⟩, _, rfl, rfl⟩
    exact ⟨d, documented, rfl⟩

/-! ## Parts by their first token -/

section

variable {k : TokenKind} {l : Language TokenKind}

theorem cons_mem_unranged_mul_iff :
    k :: ks ∈ unranged * l ↔ k.isLeaf = true ∧ ks ∈ l ∨ k = .lbrace ∧ ks ∈ objectRest * l ∨
      k = .lbracket ∧ ks ∈ arrayRest * l := by
  rw [unranged_eq, add_mul, add_mul, Language.mem_add, Language.mem_add, cons_mem_oneOf_mul_iff, mul_assoc,
    mul_assoc, cons_mem_letter_mul_iff, cons_mem_letter_mul_iff, or_assoc]

theorem cons_mem_values_mul_iff :
    k :: ks ∈ values * l ↔ k :: ks ∈ unranged * l ∨ k = .lparen ∧ ks ∈ rangeRest * l := by
  rw [values_eq, add_mul, Language.mem_add, mul_assoc, cons_mem_letter_mul_iff]

theorem cons_mem_pairsRest_mul_iff :
    k :: ks ∈ pairsRest * l ↔ k = .string ∧ ks ∈ {[.colon]} * (values * (pairRest * l)) := by
  rw [pairsRest_eq, mul_assoc, cons_mem_letter_mul_iff, mul_assoc, mul_assoc]

theorem cons_mem_objectRest_mul_iff :
    k :: ks ∈ objectRest * l ↔ k = .rbrace ∧ ks ∈ l ∨ k :: ks ∈ pairsRest * l := by
  rw [objectRest, add_mul, Language.mem_add, cons_mem_letter_mul_iff]

theorem cons_mem_pairRest_mul_iff :
    k :: ks ∈ pairRest * l ↔ k = .rbrace ∧ ks ∈ l ∨ k = .comma ∧ ks ∈ pairsRest * l := by
  rw [pairRest, add_mul, Language.mem_add, cons_mem_letter_mul_iff, mul_assoc, cons_mem_letter_mul_iff]

theorem cons_mem_rangeRest_mul_iff : k :: ks ∈ rangeRest * l ↔ k = .integer ∧ ks ∈ minRest * l := by
  rw [rangeRest, mul_assoc, cons_mem_letter_mul_iff]

theorem cons_mem_minRest_mul_iff :
    k :: ks ∈ minRest * l ↔ k = .rparen ∧ ks ∈ l ∨ k = .comma ∧ ks ∈ maxRest * l := by
  rw [minRest, add_mul, Language.mem_add, cons_mem_letter_mul_iff, mul_assoc, cons_mem_letter_mul_iff]

theorem cons_mem_maxRest_mul_iff :
    k :: ks ∈ maxRest * l ↔ k = .integer ∧ ks ∈ ({[.rparen]} : Language TokenKind) * l := by
  rw [maxRest, mul_assoc, cons_mem_letter_mul_iff]

theorem cons_mem_lengthRest_mul_iff :
    k :: ks ∈ lengthRest * l ↔
      k = .comma ∧ ks ∈ values * (({[.rbracket]} : Language TokenKind) * l) := by
  rw [lengthRest, mul_assoc, cons_mem_letter_mul_iff, mul_assoc]

theorem cons_mem_arrayRest_mul_iff :
    k :: ks ∈ arrayRest * l ↔ k = .rbracket ∧ ks ∈ l ∨
      k = .lparen ∧ ks ∈ rangeRest * (lengthRest * l) ∨
        k :: ks ∈ unranged * (({[.rbracket]} : Language TokenKind) * l) := by
  rw [arrayRest, add_mul, add_mul, Language.mem_add, Language.mem_add, cons_mem_letter_mul_iff, mul_assoc,
    cons_mem_letter_mul_iff, mul_assoc, mul_assoc, or_assoc]

end

end Kinds

/-! ## What may follow a place of the reader -/

variable {η : Type}

open Kinds

/-- What ends an open object or list behind a value in it. -/
def OpenNode.closing : OpenNode η → Language TokenKind
  | .object .. => pairRest
  | .array _ => {[.rbracket]}

/-- What ends everything that is open, and the end. -/
def closings : List (OpenNode η) → Language TokenKind
  | [] => {[.eof]}
  | o :: outer => o.closing * closings outer

/-- What belongs to a range: nothing where it is a value, and the element where it is a length. -/
def RangeUse.behind : RangeUse → Language TokenKind
  | .value => 1
  | .length => lengthRest

namespace Reading

/-- What may follow a place. -/
def completions (reading : Reading η) : Language TokenKind :=
  let outer := closings reading.opened
  match reading.next with
  | .start | .value => values * outer
  | .keyOrBrace => objectRest * outer
  | .key _ => pairsRest * outer
  | .colon .. => {[.colon]} * (values * (pairRest * outer))
  | .commaOrBrace _ => pairRest * outer
  | .elementOrBracket => arrayRest * outer
  | .rangeMin use => rangeRest * (use.behind * outer)
  | .rangeSeparator use _ => minRest * (use.behind * outer)
  | .rangeMax use _ => maxRest * (use.behind * outer)
  | .rangeClose use _ => {[.rparen]} * (use.behind * outer)
  | .lengthComma _ => lengthRest * outer
  | .bracket .. => {[.rbracket]} * outer
  | .stop _ => {[.eof]}

/-- A complete value is followed by the ends of what is open around it. -/
theorem completions_complete (opened : List (OpenNode η)) (v : Node η) :
    (complete opened v).completions = closings opened := by
  cases opened with
  | nil => rfl
  | cons o outer => cases o <;> rfl

theorem exists_mem_mul {l m : Language TokenKind} (left : ∃ ks, ks ∈ l) (right : ∃ ks, ks ∈ m) :
    ∃ ks, ks ∈ l * m := by
  obtain ⟨ks, left⟩ := left
  obtain ⟨ks', right⟩ := right
  exact ⟨ks ++ ks', Language.append_mem_mul left right⟩

theorem exists_mem_letter (k : TokenKind) : ∃ ks, ks ∈ ({[k]} : Language TokenKind) := ⟨[k], rfl⟩

/-- The word for null is a value. -/
theorem exists_mem_values : ∃ ks, ks ∈ values :=
  ⟨[.nullWord], .leaf ⟨⟨.nullWord, "", 0⟩, rfl⟩, trivial, rfl⟩

theorem exists_mem_lengthRest : ∃ ks, ks ∈ lengthRest :=
  exists_mem_mul (exists_mem_letter _) (exists_mem_mul exists_mem_values (exists_mem_letter _))

theorem exists_mem_closings (opened : List (OpenNode η)) : ∃ ks, ks ∈ closings opened := by
  induction opened with
  | nil => exact exists_mem_letter _
  | cons o outer ih =>
    cases o with
    | object => exact exists_mem_mul ⟨[.rbrace], .inl rfl⟩ ih
    | array => exact exists_mem_mul (exists_mem_letter _) ih

theorem exists_mem_behind (use : RangeUse) (opened : List (OpenNode η)) :
    ∃ ks, ks ∈ use.behind * closings opened := by
  refine exists_mem_mul ?_ (exists_mem_closings opened)
  cases use with
  | value => exact ⟨[], rfl⟩
  | length => exact exists_mem_lengthRest

/-- Every place can be completed. -/
theorem exists_completion (reading : Reading η) : ∃ ks, ks ∈ reading.completions := by
  obtain ⟨next, opened⟩ := reading
  have outer := exists_mem_closings opened
  have pairRest : ∃ ks, ks ∈ pairRest := ⟨[.rbrace], .inl rfl⟩
  cases next with
  | start | value => exact exists_mem_mul exists_mem_values outer
  | keyOrBrace => exact exists_mem_mul ⟨[.rbrace], .inl rfl⟩ outer
  | key members =>
    refine exists_mem_mul ?_ outer
    rw [pairsRest_eq]
    exact exists_mem_mul (exists_mem_letter _) (exists_mem_mul (exists_mem_letter _)
      (exists_mem_mul exists_mem_values pairRest))
  | colon members key =>
    exact exists_mem_mul (exists_mem_letter _) (exists_mem_mul exists_mem_values
      (exists_mem_mul pairRest outer))
  | commaOrBrace members => exact exists_mem_mul pairRest outer
  | elementOrBracket => exact exists_mem_mul ⟨[.rbracket], .inl (.inl rfl)⟩ outer
  | rangeMin use =>
    exact exists_mem_mul ⟨_, mem_rangeRest_iff.mpr (.inl rfl)⟩ (exists_mem_behind use opened)
  | rangeSeparator use min => exact exists_mem_mul ⟨[.rparen], .inl rfl⟩ (exists_mem_behind use opened)
  | rangeMax use min =>
    exact exists_mem_mul (exists_mem_mul (exists_mem_letter _) (exists_mem_letter _))
      (exists_mem_behind use opened)
  | rangeClose use range => exact exists_mem_mul (exists_mem_letter _) (exists_mem_behind use opened)
  | lengthComma length => exact exists_mem_mul exists_mem_lengthRest outer
  | bracket length element => exact exists_mem_mul (exists_mem_letter _) outer
  | stop root => exact exists_mem_letter _

/-! ## One step -/

/-- What taking a token says about the words that may follow: behind a token that is taken their rest may follow,
and a token that is refused begins none of them. -/
def Leads (l : Language TokenKind) (t : Token) : Except SchemaError (Reading η) → Prop
  | .ok next => ∀ ks, t.kind :: ks ∈ l ↔ ks ∈ next.completions
  | .error (.unexpected _ found) => found = t ∧ ∀ ks, t.kind :: ks ∉ l
  | .error _ => True

variable {ctx : Context η} {t : Token} {e : SchemaError} {l : Language TokenKind}

/-- Only words that begin with the token matter. -/
theorem Leads.congr {m : Language TokenKind} {taken : Except SchemaError (Reading η)}
    (same : ∀ ks, t.kind :: ks ∈ m ↔ t.kind :: ks ∈ l) (leads : Leads l t taken) : Leads m t taken := by
  match taken with
  | .ok next => exact fun ks => (same ks).trans (leads ks)
  | .error e =>
    cases e with
    | unexpected expected found => exact ⟨leads.1, fun ks => (same ks).not.mpr (leads.2 ks)⟩
    | _ => trivial

/-- An error that does not refuse a token says nothing. -/
theorem leads_error (other : ∀ expected found, e ≠ .unexpected expected found) :
    Leads l t (.error e : Except SchemaError (Reading η)) := by
  cases e with
  | unexpected expected found => exact absurd rfl (other expected found)
  | _ => trivial

/-- A token of the one kind that can come next, and any other. -/
theorem takeKind_leads {kind : TokenKind} {reading : Reading η}
    (next : reading.completions = l) : Leads ({[kind]} * l) t (takeKind kind t reading) := by
  unfold takeKind
  split
  · next same =>
    intro ks
    rw [cons_mem_letter_mul_iff, next]
    exact and_iff_right same
  · next other =>
    refine ⟨rfl, fun ks inside => ?_⟩
    exact other (cons_mem_letter_mul_iff.mp inside).1

theorem readInteger_error (fails : readInteger t = .error e) :
    ∀ expected found, e ≠ .unexpected expected found := by
  unfold readInteger at fails
  split at fails <;> cases fails
  exact fun _ _ => SchemaError.noConfusion

/-- What is wrong with a token that is a value by itself is not its kind. -/
theorem leaf?_error (fails : leaf? ctx t = some (.error e)) :
    ∀ expected found, e ≠ .unexpected expected found := by
  unfold leaf? at fails
  split at fails
  · have refused := (map_eq_error_iff ..).mp (Option.some.inj fails)
    unfold Registry.resolve at refused
    split at refused <;> cases refused
    exact fun _ _ => SchemaError.noConfusion
  · exact readInteger_error ((map_eq_error_iff ..).mp (Option.some.inj fails))
  · have refused := (map_eq_error_iff ..).mp (Option.some.inj fails)
    unfold readFloat at refused
    split at refused
    · split at refused <;> cases refused
      exact fun _ _ => SchemaError.noConfusion
    · cases refused
      exact fun _ _ => SchemaError.noConfusion
  · cases fails
  · have refused := (map_eq_error_iff ..).mp (Option.some.inj fails)
    obtain ⟨cut, rest, -, -, -, -, bad⟩ := (ctx.registry.template_eq_error_iff ..).mp refused
    rcases bad with ⟨-, rfl⟩ | ⟨written, behind, -, -, -, rfl⟩ <;> exact fun _ _ => SchemaError.noConfusion
  · have refused := (map_eq_error_iff ..).mp (Option.some.inj fails)
    unfold readPattern at refused
    dsimp only at refused
    split at refused <;> cases refused
    exact fun _ _ => SchemaError.noConfusion
  all_goals cases fails

theorem isLeaf_of_leaf? {node : Except SchemaError (Node η)} (leaf : leaf? ctx t = some node) :
    t.kind.isLeaf = true := by
  by_contra other
  rw [(leaf?_eq_none_iff ctx t).mpr (by simpa using other)] at leaf
  cases leaf

/-- The first token of a value. -/
theorem takeValue_leads (opened : List (OpenNode η)) :
    Leads (values * closings opened) t (takeValue ctx opened t) := by
  have first (ks) : t.kind :: ks ∈ values * closings opened ↔ _ :=
    cons_mem_values_mul_iff.trans (or_congr_left cons_mem_unranged_mul_iff)
  unfold takeValue
  split
  · next kind =>
    intro ks
    rw [first, kind]
    simp [TokenKind.isLeaf, completions]
  · next kind =>
    intro ks
    rw [first, kind]
    simp [TokenKind.isLeaf, completions]
  · next kind =>
    intro ks
    rw [first, kind]
    simp [TokenKind.isLeaf, completions, RangeUse.behind]
  · next brace bracket paren =>
    replace brace : t.kind ≠ .lbrace := brace
    replace bracket : t.kind ≠ .lbracket := bracket
    replace paren : t.kind ≠ .lparen := paren
    split
    · next node leaf =>
      have isLeaf := isLeaf_of_leaf? leaf
      cases node with
      | error e => exact leads_error (leaf?_error leaf)
      | ok v =>
        intro ks
        rw [completions_complete, first]
        simp [isLeaf, brace, bracket, paren]
    · next none =>
      have inner := (leaf?_eq_none_iff ctx t).mp none
      refine ⟨rfl, fun ks inside => ?_⟩
      rw [first] at inside
      simp [inner, brace, bracket, paren] at inside

theorem takeKey_leads (members : List (String × Node η)) (opened : List (OpenNode η)) :
    Leads (pairsRest * closings opened) t (takeKey members opened t) := by
  unfold takeKey
  split
  · next kind =>
    intro ks
    rw [cons_mem_pairsRest_mul_iff, kind]
    exact and_iff_right rfl
  · next other =>
    refine ⟨rfl, fun ks inside => ?_⟩
    exact other (cons_mem_pairsRest_mul_iff.mp inside).1

/-- A range that is complete is followed by what belongs to it. -/
theorem completeRange_leads {use : RangeUse} {opened : List (OpenNode η)} {r : Range}
    (rest : ∀ ks, t.kind :: ks ∈ l ↔ ks ∈ use.behind * closings opened) :
    Leads l t (completeRange use opened r) := by
  cases use with
  | value =>
    intro ks
    rw [rest, completions_complete, RangeUse.behind, one_mul]
  | length =>
    unfold completeRange
    dsimp only
    split
    · trivial
    · exact rest

/-- Taking a token leads from the words that may follow to their rest. Only the end behind a whole value leads
nowhere. -/
theorem step_leads (reading : Reading η) (inner : t.kind = .eof → ∀ root, reading.next ≠ .stop root) :
    Leads reading.completions t (reading.step ctx t) := by
  obtain ⟨next, opened⟩ := reading
  cases next with
  | start =>
    simp only [step]
    split
    · trivial
    · exact takeValue_leads opened
  | value => exact takeValue_leads opened
  | keyOrBrace =>
    simp only [step]
    split
    · next brace =>
      intro ks
      have pairs : ¬ t.kind :: ks ∈ pairsRest * closings opened := by
        rw [cons_mem_pairsRest_mul_iff, brace]
        exact fun inside => TokenKind.noConfusion inside.1
      rw [completions_complete]
      exact cons_mem_objectRest_mul_iff.trans ((or_iff_left pairs).trans (and_iff_right brace))
    · next other =>
      refine (takeKey_leads [] opened).congr fun ks => ?_
      exact cons_mem_objectRest_mul_iff.trans (or_iff_right fun brace => other brace.1)
  | key members => exact takeKey_leads members opened
  | colon members key => exact takeKind_leads rfl
  | commaOrBrace members =>
    have first (ks) : t.kind :: ks ∈ pairRest * closings opened ↔ _ := cons_mem_pairRest_mul_iff
    simp only [step]
    split
    · next comma =>
      intro ks
      refine (first ks).trans ?_
      simp [comma, completions]
    split
    · next other brace =>
      intro ks
      refine (first ks).trans ?_
      simp [brace, completions_complete]
    · next comma brace =>
      refine ⟨rfl, fun ks inside => ?_⟩
      simpa [comma, brace] using (first ks).mp inside
  | elementOrBracket =>
    have first (ks) : t.kind :: ks ∈ arrayRest * closings opened ↔ _ := cons_mem_arrayRest_mul_iff
    simp only [step]
    split
    · next bracket =>
      intro ks
      refine (first ks).trans ?_
      simp [bracket, cons_mem_unranged_mul_iff, TokenKind.isLeaf, completions_complete]
    split
    · next bracket paren =>
      intro ks
      refine (first ks).trans ?_
      simp [paren, cons_mem_unranged_mul_iff, TokenKind.isLeaf, completions, RangeUse.behind]
    · next bracket paren =>
      refine (takeValue_leads (.array none :: opened)).congr fun ks => (first ks).trans ?_
      rw [cons_mem_values_mul_iff]
      simp [bracket, paren, closings, OpenNode.closing]
  | rangeMin use =>
    have first (ks) : t.kind :: ks ∈ rangeRest * (use.behind * closings opened) ↔ _ :=
      cons_mem_rangeRest_mul_iff
    simp only [step]
    split
    · next integer =>
      cases read : readInteger t with
      | error e => exact leads_error (readInteger_error read)
      | ok min => exact fun ks => (first ks).trans (and_iff_right integer)
    · next other => exact ⟨rfl, fun ks inside => other ((first ks).mp inside).1⟩
  | rangeSeparator use min =>
    have first (ks) : t.kind :: ks ∈ minRest * (use.behind * closings opened) ↔ _ :=
      cons_mem_minRest_mul_iff
    simp only [step]
    split
    · next paren =>
      refine completeRange_leads fun ks => (first ks).trans ?_
      simp [paren]
    split
    · next comma =>
      intro ks
      refine (first ks).trans ?_
      simp [comma, completions]
    · next paren comma =>
      refine ⟨rfl, fun ks inside => ?_⟩
      simpa [comma, paren] using (first ks).mp inside
  | rangeMax use min =>
    have first (ks) : t.kind :: ks ∈ maxRest * (use.behind * closings opened) ↔ _ :=
      cons_mem_maxRest_mul_iff
    simp only [step]
    split
    · next integer =>
      cases read : readInteger t with
      | error e => exact leads_error (readInteger_error read)
      | ok max =>
        cases ordered : Range.of? min max with
        | some range =>
          simp only [ordered, bind, Except.bind, pure, Except.pure]
          exact fun ks => (first ks).trans (and_iff_right integer)
        | none =>
          simp only [ordered, bind, Except.bind]
          trivial
    · next other => exact ⟨rfl, fun ks inside => other ((first ks).mp inside).1⟩
  | rangeClose use range =>
    simp only [step]
    split
    · next paren =>
      exact completeRange_leads fun ks => cons_mem_letter_mul_iff.trans (and_iff_right paren)
    · next other => exact ⟨rfl, fun ks inside => other (cons_mem_letter_mul_iff.mp inside).1⟩
  | lengthComma length =>
    refine (takeKind_leads rfl).congr fun ks => ?_
    exact cons_mem_lengthRest_mul_iff.trans cons_mem_letter_mul_iff.symm
  | bracket length element =>
    simp only [step]
    split
    · next bracket =>
      intro ks
      rw [completions_complete]
      exact cons_mem_letter_mul_iff.trans (and_iff_right bracket)
    · next other => exact ⟨rfl, fun ks inside => other (cons_mem_letter_mul_iff.mp inside).1⟩
  | stop root =>
    have other : t.kind ≠ .eof := fun eof => inner eof root rfl
    simp only [step, takeKind, if_neg other]
    exact ⟨rfl, fun ks inside => other (List.cons.inj inside).1⟩

/-! ## A whole run -/

/-- A refused token begins none of the words that may follow its place. -/
theorem refused_of_step {reading : Reading η} {expected : Expectation} {found : Token}
    (refused : reading.step ctx t = .error (.unexpected expected found)) :
    found = t ∧ ∀ ks, t.kind :: ks ∉ reading.completions := by
  have leads : Leads reading.completions t (reading.step ctx t) := step_leads reading fun eof root stops => by
    rw [(step_eof_iff ctx reading reading eof).mpr ⟨⟨root, stops⟩, rfl⟩] at refused
    cases refused
  rwa [refused] at leads

/-- Where a run refuses a token, the tokens before it can be completed and with it they cannot. By induction on
the tokens; what may follow a place carries over from the place behind a token that is taken. -/
theorem run_unexpected {last : Token} {reading : Reading η} {ts : List Token} {expected : Expectation}
    {found : Token} (fails : run ctx last reading ts = .error (.unexpected expected found)) :
    ∃ before after, ts ++ [last] = before ++ found :: after ∧
      (∃ ks, Token.kinds before ++ ks ∈ reading.completions) ∧
      ∀ ks, Token.kinds before ++ found.kind :: ks ∉ reading.completions := by
  induction ts generalizing reading with
  | nil =>
    obtain ⟨rfl, none⟩ := refused_of_step fails
    exact ⟨[], [], rfl, exists_completion reading, none⟩
  | cons t rest ih =>
    rcases (bind_eq_error_iff ..).mp fails with refused | ⟨next, taken, later⟩
    · obtain ⟨rfl, none⟩ := refused_of_step refused
      exact ⟨[], rest ++ [last], rfl, exists_completion reading, none⟩
    · split at later
      · cases later
      · next inner =>
        obtain ⟨before, after, split, ⟨ks, some⟩, none⟩ := ih later
        have leads : Leads reading.completions t (reading.step ctx t) :=
          step_leads reading fun eof => absurd eof inner
        rw [taken] at leads
        refine ⟨t :: before, after, by rw [List.cons_append, split]; rfl, ⟨ks, (leads _).mpr some⟩, ?_⟩
        exact fun ks' inside => none ks' ((leads _).mp inside)

end Reading

namespace Schema

/-- A syntax error reports the earliest token that cannot be right: the tokens in front of it begin a sentence of
the grammar, and with it they begin none. The end behind the list counts as its last token. -/
theorem ofTokens_unexpected_earliest {ctx : Context η} {tokens : List Token} {expected : Expectation}
    {found : Token} (fails : ofTokens ctx tokens = .error (.unexpected expected found)) :
    ∃ i, (tokens ++ [Token.endOf tokens])[i]? = some found ∧
      (∃ s ∈ sentences, Token.kinds (tokens.take i) <+: s) ∧
      ∀ s ∈ sentences, ¬ Token.kinds (tokens.take i) ++ [found.kind] <+: s := by
  have ran : Reading.run ctx (Token.endOf tokens) Reading.initial tokens =
      .error (.unexpected expected found) := by
    rcases (bind_eq_error_iff ..).mp fails with refused | ⟨reading, -, made⟩
    · exact refused
    · split at made <;> cases made
  obtain ⟨before, after, split, ⟨ks, some⟩, none⟩ := Reading.run_unexpected ran
  have start : (Reading.initial : Reading η).completions = sentences := Kinds.sentences_eq.symm
  rw [start] at some none
  have front : tokens.take before.length = before := by
    have bound : before.length ≤ tokens.length := by
      have lengths := congrArg List.length split
      simp only [List.length_append, List.length_cons, List.length_nil] at lengths
      omega
    have taken := congrArg (List.take before.length) split
    rwa [List.take_append_of_le_length bound, List.take_left] at taken
  refine ⟨before.length, ?_, ?_, ?_⟩
  · rw [split, List.getElem?_append_right le_rfl, Nat.sub_self]
    rfl
  · rw [front]
    exact ⟨_, some, List.prefix_append _ _⟩
  · rw [front]
    rintro s inside ⟨rest, rfl⟩
    rw [List.append_assoc] at inside
    exact none rest inside

/-- The list `[(1)]`: the parenthesis begins a length, so the closing bracket is too early. -/
theorem ofTokens_unexpected_earliest_length :
    let ctx : Context Unit := ⟨.empty, .initial⟩
    let tokens : List Token := [⟨.lbracket, "[", 0⟩, ⟨.lparen, "(", 1⟩, ⟨.integer, "1", 2⟩,
      ⟨.rparen, ")", 3⟩, ⟨.rbracket, "]", 4⟩, ⟨.eof, "", 5⟩]
    let found : Token := ⟨.rbracket, "]", 4⟩
    ofTokens ctx tokens = .error (.unexpected (.kind .comma) found) ∧
      ∃ i, (tokens ++ [Token.endOf tokens])[i]? = some found ∧
        (∃ s ∈ sentences, Token.kinds (tokens.take i) <+: s) ∧
        ∀ s ∈ sentences, ¬ Token.kinds (tokens.take i) ++ [found.kind] <+: s := by
  intro ctx tokens found
  have fails : ofTokens ctx tokens = .error (.unexpected (.kind .comma) found) := rfl
  exact ⟨fails, ofTokens_unexpected_earliest fails⟩

end Schema

end MockSchema
