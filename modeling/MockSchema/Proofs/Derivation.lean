import MockSchema.Proofs.TemplateCut
import MockSchema.Schema.Parse

/-!
# The grammar of schemas

A derivation is a tree whose leaves are the tokens of a schema in order; there is one constructor for
each alternative of a production:

* value: object, list, range, or a token that is a value by itself;
* object: `{ }` or `{ pair , … , pair }`, where a pair is a string, a colon and a value;
* list: `[ ]`, `[ range , value ]` or `[ value ]`, where the value is no bare range;
* range: `( integer )` or `( integer , integer )`.

`Denotes` says which derivations are correct in a context and which node each of them stands for: every
condition on texts, names and bounds is a premise of one of its rules. The grammar is unambiguous
(`ValueTree.tokens_inj`): tokens have at most one derivation, whatever their texts are.
-/

namespace MockSchema

/-- The kinds of token that are values by themselves. -/
def TokenKind.isLeaf : TokenKind → Bool
  | .ident | .integer | .float | .string | .template | .regex | .nullWord | .trueWord
  | .falseWord => true
  | _ => false

/-- A token of a given kind. -/
abbrev Token.Of (kind : TokenKind) := { t : Token // t.kind = kind }

/-- A token that is a value by itself. -/
abbrev Token.Leaf := { t : Token // t.kind.isLeaf = true }

/-- Derivations of ranges. -/
inductive RangeTree where
  | one (left : Token.Of .lparen) (bound : Token.Of .integer) (right : Token.Of .rparen)
  | two (left : Token.Of .lparen) (min : Token.Of .integer) (comma : Token.Of .comma)
      (max : Token.Of .integer) (right : Token.Of .rparen)

mutual

/-- Derivations of values. -/
inductive ValueTree where
  | leaf (t : Token.Leaf)
  | range (r : RangeTree)
  | emptyObject (left : Token.Of .lbrace) (right : Token.Of .rbrace)
  | object (left : Token.Of .lbrace) (pairs : PairsTree) (right : Token.Of .rbrace)
  | emptyArray (left : Token.Of .lbracket) (right : Token.Of .rbracket)
  | array (left : Token.Of .lbracket) (element : ValueTree) (right : Token.Of .rbracket)
  | sizedArray (left : Token.Of .lbracket) (length : RangeTree) (comma : Token.Of .comma)
      (element : ValueTree) (right : Token.Of .rbracket)

/-- Derivations of the pairs of an object, at least one, with commas between them. -/
inductive PairsTree where
  | last (key : Token.Of .string) (colon : Token.Of .colon) (value : ValueTree)
  | more (key : Token.Of .string) (colon : Token.Of .colon) (value : ValueTree)
      (comma : Token.Of .comma) (rest : PairsTree)

end

/-- The tokens of a range in order. -/
def RangeTree.tokens : RangeTree → List Token
  | .one left bound right => [left.val, bound.val, right.val]
  | .two left min comma max right => [left.val, min.val, comma.val, max.val, right.val]

mutual

/-- The tokens of a value in order. -/
def ValueTree.tokens : ValueTree → List Token
  | .leaf t => [t.val]
  | .range r => r.tokens
  | .emptyObject left right => [left.val, right.val]
  | .object left pairs right => left.val :: (pairs.tokens ++ [right.val])
  | .emptyArray left right => [left.val, right.val]
  | .array left element right => left.val :: (element.tokens ++ [right.val])
  | .sizedArray left length comma element right =>
    left.val :: (length.tokens ++ comma.val :: (element.tokens ++ [right.val]))

/-- The tokens of pairs in order. -/
def PairsTree.tokens : PairsTree → List Token
  | .last key colon value => key.val :: colon.val :: value.tokens
  | .more key colon value comma rest =>
    key.val :: colon.val :: (value.tokens ++ comma.val :: rest.tokens)

end

/-! ## What derivations stand for -/

/-- The range that a derivation stands for: its bounds are integers in order. -/
inductive RangeTree.Denotes : RangeTree → Range → Prop
  | one {left bound right n} (integer : Text.readInt64? bound.val.literal.toList = some n) :
      Denotes (.one left bound right) (Range.fixed n)
  | two {left min comma max right m n} (lower : Text.readInt64? min.val.literal.toList = some m)
      (upper : Text.readInt64? max.val.literal.toList = some n) (order : m ≤ n) :
      Denotes (.two left min comma max right) ⟨m, n, order⟩

variable {η : Type}

/-- The node that a single token stands for. -/
inductive Token.Denotes (ctx : Context η) (t : Token) : Node η → Prop
  | terminal {handle} (kind : t.kind = .ident)
      (registered : ctx.registry.get? t.literal = some handle) :
      Denotes ctx t (.terminal ⟨t.literal, handle⟩)
  | integer {n} (kind : t.kind = .integer)
      (integer : Text.readInt64? t.literal.toList = some n) : Denotes ctx t (.literal (.int n))
  | float {x} (kind : t.kind = .float) (number : Binary64.read? t.literal.toList = some x)
      (finite : x.isFinite = true) : Denotes ctx t (.literal (.float x))
  | string (kind : t.kind = .string) : Denotes ctx t (.literal (.string t.literal))
  | template {cut : TemplateCut} {params} (kind : t.kind = .template)
      (written : cut.chars = t.literal.toList) (leftmost : cut.IsLeftmost)
      (registered : List.Forall₂ ctx.registry.Names (cut.places.map Prod.snd) params) :
      Denotes ctx t (.template ⟨t.literal, cut.segments, params⟩)
  | pattern {p} (kind : t.kind = .regex)
      (compiles : Pattern.ofText (String.ofList (Reading.unescapeSlashes t.literal.toList))
        ctx.settings = .ok p) : Denotes ctx t (.pattern p)
  | null (kind : t.kind = .nullWord) : Denotes ctx t (.literal .null)
  | true (kind : t.kind = .trueWord) : Denotes ctx t (.literal (.bool Bool.true))
  | false (kind : t.kind = .falseWord) : Denotes ctx t (.literal (.bool Bool.false))

/-- Only leaves stand for nodes by themselves. -/
theorem Token.isLeaf_of_denotes {ctx : Context η} {t : Token} {node : Node η} (h : t.Denotes ctx node) :
    t.kind.isLeaf = true := by
  cases h with
  | _ kind => rw [kind]; rfl

mutual

/-- The node that a derivation stands for. -/
inductive ValueTree.Denotes (ctx : Context η) : ValueTree → Node η → Prop
  | leaf {t : Token.Leaf} {node} (token : t.val.Denotes ctx node) :
      ValueTree.Denotes ctx (.leaf t) node
  | range {r : RangeTree} {bounds} (bounded : r.Denotes bounds) :
      ValueTree.Denotes ctx (.range r) (.range bounds)
  | emptyObject {left right} : ValueTree.Denotes ctx (.emptyObject left right) (.object [])
  | object {left pairs right members} (listed : PairsTree.Denotes ctx pairs members) :
      ValueTree.Denotes ctx (.object left pairs right) (.object members)
  | emptyArray {left right} : ValueTree.Denotes ctx (.emptyArray left right) .emptyArray
  | array {left element right node} (item : ValueTree.Denotes ctx element node)
      (bare : ∀ r, element ≠ .range r) :
      ValueTree.Denotes ctx (.array left element right) (.array none node)
  | sizedArray {left} {length : RangeTree} {comma element right bounds node}
      (bounded : length.Denotes bounds) (countable : 0 ≤ bounds.min)
      (item : ValueTree.Denotes ctx element node) :
      ValueTree.Denotes ctx (.sizedArray left length comma element right)
        (.array (some bounds) node)

/-- The members that pairs stand for, as written. -/
inductive PairsTree.Denotes (ctx : Context η) : PairsTree → List (String × Node η) → Prop
  | last {key colon value node} (member : ValueTree.Denotes ctx value node) :
      PairsTree.Denotes ctx (.last key colon value) [(key.val.literal, node)]
  | more {key colon value comma rest node members} (member : ValueTree.Denotes ctx value node)
      (others : PairsTree.Denotes ctx rest members) :
      PairsTree.Denotes ctx (.more key colon value comma rest)
        ((key.val.literal, node) :: members)

end

/-! ## Unambiguity -/

/-- Tokens of different kinds are different. -/
theorem Token.Of.ne {k k' : TokenKind} (h : k ≠ k') (t : Token.Of k) (t' : Token.Of k') :
    t.val ≠ t'.val := by
  intro same
  exact h (t.property.symm.trans (same ▸ t'.property))

theorem RangeTree.tokens_append_inj {r r' : RangeTree} {ts ts' : List Token}
    (h : r.tokens ++ ts = r'.tokens ++ ts') : r = r' ∧ ts = ts' := by
  cases r with
  | one left bound right =>
    cases r' with
    | one left' bound' right' =>
      simp only [tokens, List.cons_append, List.nil_append, List.cons.injEq, Subtype.val_inj] at h
      obtain ⟨rfl, rfl, rfl, rfl⟩ := h
      exact ⟨rfl, rfl⟩
    | two left' min' comma' max' right' =>
      simp only [tokens, List.cons_append, List.cons.injEq] at h
      exact absurd h.2.2.1 (Token.Of.ne (by decide) right comma')
  | two left min comma max right =>
    cases r' with
    | one left' bound' right' =>
      simp only [tokens, List.cons_append, List.cons.injEq] at h
      exact absurd h.2.2.1 (Token.Of.ne (by decide) comma right')
    | two left' min' comma' max' right' =>
      simp only [tokens, List.cons_append, List.nil_append, List.cons.injEq, Subtype.val_inj] at h
      obtain ⟨rfl, rfl, rfl, rfl, rfl, rfl⟩ := h
      exact ⟨rfl, rfl⟩

/-- The kind of the first token of a value. -/
def ValueTree.firstKind : ValueTree → TokenKind
  | .leaf t => t.val.kind
  | .range _ => .lparen
  | .emptyObject .. | .object .. => .lbrace
  | .emptyArray .. | .array .. | .sizedArray .. => .lbracket

theorem RangeTree.tokens_eq_cons (r : RangeTree) :
    ∃ t ts, r.tokens = t :: ts ∧ t.kind = .lparen := by
  cases r with
  | one left => exact ⟨left.val, _, rfl, left.property⟩
  | two left => exact ⟨left.val, _, rfl, left.property⟩

theorem ValueTree.tokens_eq_cons (d : ValueTree) :
    ∃ t ts, d.tokens = t :: ts ∧ t.kind = d.firstKind := by
  cases d with
  | leaf t => exact ⟨t.val, [], rfl, rfl⟩
  | range r => exact r.tokens_eq_cons
  | emptyObject left => exact ⟨left.val, _, rfl, left.property⟩
  | object left => exact ⟨left.val, _, rfl, left.property⟩
  | emptyArray left => exact ⟨left.val, _, rfl, left.property⟩
  | array left => exact ⟨left.val, _, rfl, left.property⟩
  | sizedArray left => exact ⟨left.val, _, rfl, left.property⟩

theorem PairsTree.tokens_eq_cons (p : PairsTree) :
    ∃ t ts, p.tokens = t :: ts ∧ t.kind = .string := by
  cases p with
  | last key => exact ⟨key.val, _, rfl, key.property⟩
  | more key => exact ⟨key.val, _, rfl, key.property⟩

/-- A leaf begins with no bracket. -/
theorem Token.Leaf.kind_ne {k : TokenKind} (h : k.isLeaf = false) (t : Token.Leaf) :
    t.val.kind ≠ k := by
  intro same
  have leaf := t.property
  rw [same, h] at leaf
  cases leaf

theorem ValueTree.firstKind_eq_of_append {d d' : ValueTree} {ts ts' : List Token}
    (h : d.tokens ++ ts = d'.tokens ++ ts') : d.firstKind = d'.firstKind := by
  obtain ⟨t, rest, ht, kind⟩ := d.tokens_eq_cons
  obtain ⟨t', rest', ht', kind'⟩ := d'.tokens_eq_cons
  rw [ht, ht', List.cons_append, List.cons_append, List.cons.injEq] at h
  rw [← kind, ← kind', h.1]

theorem ValueTree.firstKind_of_cons {d : ValueTree} {t : Token} {ts rest : List Token}
    (h : t :: ts = d.tokens ++ rest) : d.firstKind = t.kind := by
  obtain ⟨t', ts', tokens, kind⟩ := d.tokens_eq_cons
  rw [tokens, List.cons_append, List.cons.injEq] at h
  rw [← kind, h.1]

/-- A value begins neither with a closing bracket nor with the end. -/
theorem ValueTree.firstKind_ne {k : TokenKind} (d : ValueTree)
    (h : k ∈ [TokenKind.rbracket, .rbrace, .rparen, .colon, .comma, .eof, .whitespace]) :
    d.firstKind ≠ k := by
  cases d with
  | leaf t => exact t.kind_ne (by revert h; cases k <;> decide)
  | _ => simp only [firstKind]; rintro rfl; revert h; decide

theorem ValueTree.range_of_firstKind {d : ValueTree} (h : d.firstKind = .lparen) :
    ∃ r, d = .range r := by
  cases d with
  | leaf t => exact absurd h (t.kind_ne rfl)
  | range r => exact ⟨r, rfl⟩
  | _ => simp [firstKind] at h

/-- A closing token behind a value or a range is no other token. -/
theorem ValueTree.tokens_append_ne {k : TokenKind} (d : ValueTree) (t : Token.Of k)
    (h : k ∈ [TokenKind.rbracket, .rbrace, .rparen, .colon, .comma, .eof, .whitespace])
    (ts ts' : List Token) : d.tokens ++ ts ≠ t.val :: ts' := by
  obtain ⟨t', rest, ht, kind⟩ := d.tokens_eq_cons
  intro same
  rw [ht, List.cons_append, List.cons.injEq] at same
  refine d.firstKind_ne h ?_
  rw [← kind, same.1, t.property]

/-- A list with a range in front of a comma is no list of one element. -/
theorem ValueTree.array_ne_sized (element : ValueTree) (right : Token.Of .rbracket)
    (length : RangeTree) (comma : Token.Of .comma) (ts ts' : List Token) :
    element.tokens ++ right.val :: ts ≠ length.tokens ++ comma.val :: ts' := by
  intro h
  have kind : element.firstKind = (ValueTree.range length).firstKind :=
    ValueTree.firstKind_eq_of_append h
  obtain ⟨r, rfl⟩ := ValueTree.range_of_firstKind kind
  obtain ⟨-, same⟩ := RangeTree.tokens_append_inj h
  exact Token.Of.ne (by decide) right comma (List.cons.inj same).1

mutual

/-- Values with equal tokens in front are equal. By induction on the first derivation; the first token
tells the constructors apart, and a second one where two of them begin alike. -/
theorem ValueTree.tokens_append_inj : ∀ {d d' : ValueTree} {ts ts' : List Token},
    d.tokens ++ ts = d'.tokens ++ ts' → d = d' ∧ ts = ts'
  | .leaf t, d', ts, ts', h => by
    have kind := ValueTree.firstKind_eq_of_append h
    cases d' with
    | leaf t' =>
      simp only [ValueTree.tokens, List.cons_append, List.nil_append, List.cons.injEq,
        Subtype.val_inj] at h
      obtain ⟨rfl, rfl⟩ := h
      exact ⟨rfl, rfl⟩
    | _ => exact absurd kind (t.kind_ne rfl)
  | .range r, d', ts, ts', h => by
    obtain ⟨r', rfl⟩ := ValueTree.range_of_firstKind (ValueTree.firstKind_eq_of_append h).symm
    obtain ⟨rfl, rfl⟩ := RangeTree.tokens_append_inj h
    exact ⟨rfl, rfl⟩
  | .emptyObject left right, d', ts, ts', h => by
    have kind := ValueTree.firstKind_eq_of_append h
    cases d' with
    | leaf t => exact absurd kind.symm (t.kind_ne rfl)
    | emptyObject left' right' =>
      simp only [ValueTree.tokens, List.cons_append, List.nil_append, List.cons.injEq,
        Subtype.val_inj] at h
      obtain ⟨rfl, rfl, rfl⟩ := h
      exact ⟨rfl, rfl⟩
    | object left' pairs' right' =>
      obtain ⟨t, rest, ht, string⟩ := pairs'.tokens_eq_cons
      simp only [ValueTree.tokens, ht, List.cons_append, List.cons.injEq] at h
      exact absurd h.2.1 (Token.Of.ne (by decide) right ⟨t, string⟩)
    | _ => cases kind
  | .object left pairs right, d', ts, ts', h => by
    have kind := ValueTree.firstKind_eq_of_append h
    cases d' with
    | leaf t => exact absurd kind.symm (t.kind_ne rfl)
    | emptyObject left' right' =>
      obtain ⟨t, rest, ht, string⟩ := pairs.tokens_eq_cons
      simp only [ValueTree.tokens, ht, List.cons_append, List.cons.injEq] at h
      exact absurd h.2.1.symm (Token.Of.ne (by decide) right' ⟨t, string⟩)
    | object left' pairs' right' =>
      simp only [ValueTree.tokens, List.cons_append, List.append_assoc, List.nil_append,
        List.cons.injEq, Subtype.val_inj] at h
      obtain ⟨rfl, h⟩ := h
      obtain ⟨rfl, rfl, rfl⟩ := PairsTree.tokens_append_inj h
      exact ⟨rfl, rfl⟩
    | _ => cases kind
  | .emptyArray left right, d', ts, ts', h => by
    have kind := ValueTree.firstKind_eq_of_append h
    cases d' with
    | leaf t => exact absurd kind.symm (t.kind_ne rfl)
    | emptyArray left' right' =>
      simp only [ValueTree.tokens, List.cons_append, List.nil_append, List.cons.injEq,
        Subtype.val_inj] at h
      obtain ⟨rfl, rfl, rfl⟩ := h
      exact ⟨rfl, rfl⟩
    | array left' element' right' =>
      simp only [ValueTree.tokens, List.cons_append, List.append_assoc, List.cons.injEq] at h
      exact absurd h.2.symm (element'.tokens_append_ne right (by decide) _ _)
    | sizedArray left' length' comma' element' right' =>
      simp only [ValueTree.tokens, List.cons_append, List.append_assoc, List.cons.injEq] at h
      exact absurd h.2.symm
        ((ValueTree.range length').tokens_append_ne right (by decide) _ _)
    | _ => cases kind
  | .array left element right, d', ts, ts', h => by
    have kind := ValueTree.firstKind_eq_of_append h
    cases d' with
    | leaf t => exact absurd kind.symm (t.kind_ne rfl)
    | emptyArray left' right' =>
      simp only [ValueTree.tokens, List.cons_append, List.append_assoc, List.cons.injEq] at h
      exact absurd h.2 (element.tokens_append_ne right' (by decide) _ _)
    | array left' element' right' =>
      simp only [ValueTree.tokens, List.cons_append, List.append_assoc, List.nil_append,
        List.cons.injEq, Subtype.val_inj] at h
      obtain ⟨rfl, h⟩ := h
      obtain ⟨rfl, closing⟩ := ValueTree.tokens_append_inj h
      simp only [List.cons.injEq, Subtype.val_inj] at closing
      obtain ⟨rfl, rfl⟩ := closing
      exact ⟨rfl, rfl⟩
    | sizedArray left' length' comma' element' right' =>
      simp only [ValueTree.tokens, List.cons_append, List.append_assoc, List.nil_append,
        List.cons.injEq] at h
      exact absurd h.2 (element.array_ne_sized right length' comma' _ _)
    | _ => cases kind
  | .sizedArray left length comma element right, d', ts, ts', h => by
    have kind := ValueTree.firstKind_eq_of_append h
    cases d' with
    | leaf t => exact absurd kind.symm (t.kind_ne rfl)
    | emptyArray left' right' =>
      simp only [ValueTree.tokens, List.cons_append, List.append_assoc, List.cons.injEq] at h
      exact absurd h.2 ((ValueTree.range length).tokens_append_ne right' (by decide) _ _)
    | array left' element' right' =>
      simp only [ValueTree.tokens, List.cons_append, List.append_assoc, List.nil_append,
        List.cons.injEq] at h
      exact absurd h.2.symm (element'.array_ne_sized right' length comma _ _)
    | sizedArray left' length' comma' element' right' =>
      simp only [ValueTree.tokens, List.cons_append, List.append_assoc, List.nil_append,
        List.cons.injEq, Subtype.val_inj] at h
      obtain ⟨rfl, h⟩ := h
      obtain ⟨rfl, behind⟩ := RangeTree.tokens_append_inj h
      simp only [List.cons.injEq, Subtype.val_inj] at behind
      obtain ⟨rfl, behind⟩ := behind
      obtain ⟨rfl, closing⟩ := ValueTree.tokens_append_inj behind
      simp only [List.cons.injEq, Subtype.val_inj] at closing
      obtain ⟨rfl, rfl⟩ := closing
      exact ⟨rfl, rfl⟩
    | _ => cases kind

/-- Pairs in front of a closing brace. Without the brace a list of pairs could go on behind its end. -/
theorem PairsTree.tokens_append_inj : ∀ {p p' : PairsTree} {right right' : Token.Of .rbrace}
    {ts ts' : List Token}, p.tokens ++ right.val :: ts = p'.tokens ++ right'.val :: ts' →
      p = p' ∧ right = right' ∧ ts = ts'
  | .last key colon value, p', right, right', ts, ts', h => by
    cases p' with
    | last key' colon' value' =>
      simp only [PairsTree.tokens, List.cons_append, List.cons.injEq, Subtype.val_inj] at h
      obtain ⟨rfl, rfl, h⟩ := h
      obtain ⟨rfl, closing⟩ := ValueTree.tokens_append_inj h
      simp only [List.cons.injEq, Subtype.val_inj] at closing
      obtain ⟨rfl, rfl⟩ := closing
      exact ⟨rfl, rfl, rfl⟩
    | more key' colon' value' comma' rest' =>
      simp only [PairsTree.tokens, List.cons_append, List.append_assoc, List.cons.injEq] at h
      obtain ⟨-, h⟩ := ValueTree.tokens_append_inj h.2.2
      exact absurd (List.cons.inj h).1 (Token.Of.ne (by decide) right comma')
  | .more key colon value comma rest, p', right, right', ts, ts', h => by
    cases p' with
    | last key' colon' value' =>
      simp only [PairsTree.tokens, List.cons_append, List.append_assoc, List.cons.injEq] at h
      obtain ⟨-, h⟩ := ValueTree.tokens_append_inj h.2.2
      exact absurd (List.cons.inj h).1 (Token.Of.ne (by decide) comma right')
    | more key' colon' value' comma' rest' =>
      simp only [PairsTree.tokens, List.cons_append, List.append_assoc, List.cons.injEq,
        Subtype.val_inj] at h
      obtain ⟨rfl, rfl, h⟩ := h
      obtain ⟨rfl, behind⟩ := ValueTree.tokens_append_inj h
      simp only [List.cons.injEq, Subtype.val_inj] at behind
      obtain ⟨rfl, behind⟩ := behind
      obtain ⟨rfl, rfl, rfl⟩ := PairsTree.tokens_append_inj behind
      exact ⟨rfl, rfl, rfl⟩

end

/-- Tokens have at most one derivation. -/
theorem ValueTree.tokens_inj {d d' : ValueTree} (h : d.tokens = d'.tokens) : d = d' := by
  have same : d.tokens ++ [] = d'.tokens ++ [] := by rw [h]
  exact (ValueTree.tokens_append_inj same).1

end MockSchema
