import Mathlib.Data.List.Forall2
import MockSchema.Pattern.Meaning
import MockSchema.Proofs.Outcome

/-!
# Trees that mean the same wherever they mean something

A tree refines another one if it stands for the same expression under all flags under which that one stands for
any, and is nested no deeper (`Tree.Refines`). The places of the parts do not matter, nor does a property that
does not exist. Trees put together from parts that refine each other refine each other.
-/

namespace MockSchema.Pattern

variable {x x' : Extent} {flags : Flags} {l l' : Literal}

/-! ## Steps of the meaning -/

theorem checkText_again {s a : CharSet} (made : checkText flags x s = .ok a) :
    checkText flags x' s = .ok a := by
  unfold checkText at made ⊢
  split at made
  · next fine =>
    rw [if_pos fine]
    exact made
  · cases made

theorem propertyClass_again {query query' : Unicode.Query} {negated : Bool} {a : CharSet}
    (same : ∀ s, query.resolve = .ok s → query' = query)
    (made : propertyClass flags x query negated = .ok a) :
    propertyClass flags x' query' negated = .ok a := by
  unfold propertyClass at made ⊢
  split at made
  · cases made
  · next unicode =>
    rw [if_neg unicode]
    split at made
    · next s resolved =>
      rw [same s resolved, resolved]
      exact checkText_again made
    · cases made
    · cases made

/-- Two literals of one character. -/
def Literal.Same (l l' : Literal) : Prop := l.char = l'.char ∧ l.isByte = l'.isByte

theorem literalChar_again (same : l.Same l') {c : Char} (made : literalChar flags l = .ok c) :
    literalChar flags l' = .ok c := by
  unfold literalChar at made ⊢
  rw [← same.1, ← same.2]
  split at made
  · cases made
  · next fine =>
    rw [if_neg fine]
    exact made

theorem memberCode_again (same : l.Same l') {n : Nat} (made : memberCode flags l = .ok n) :
    memberCode flags l' = .ok n := by
  obtain ⟨c, char, code⟩ := (bind_eq_ok_iff ..).mp made
  refine (bind_eq_ok_iff ..).mpr ⟨c, literalChar_again same char, ?_⟩
  split at code
  · cases code
  · next fine =>
    rw [if_neg fine]
    exact code

/-- A check of the parts one level deeper depends on the parts alone. -/
theorem deeper_again {depth : Nat} {check check' : Nat → Except Error Unit}
    (below : ∀ {n}, check n = .ok () → check' n = .ok ())
    (fine : (do check (← deeper depth x)) = .ok ()) : (do check' (← deeper depth x')) = .ok () := by
  obtain ⟨n, level, checked⟩ := (bind_eq_ok_iff ..).mp fine
  refine (bind_eq_ok_iff ..).mpr ⟨n, ?_, below checked⟩
  unfold deeper at level ⊢
  split at level
  · next inside =>
    rw [if_pos inside]
    exact level
  · cases level

/-! ## Classes -/

namespace ClassSet

/-- The same members wherever there are any, and no deeper nesting. -/
structure Refines (a a' : ClassSet) : Prop where
  members {flags : Flags} {s : CharSet} (made : a.members flags = .ok s) : a'.members flags = .ok s
  depth {depth : Nat} (fine : checkClassDepth depth a = .ok ()) : checkClassDepth depth a' = .ok ()

variable {a a' b b' : ClassSet} {items items' : List ClassSet} {negated : Bool}

theorem refines_empty : (empty x).Refines (empty x') := ⟨id, id⟩

theorem refines_literal (same : l.Same l') : (literal l).Refines (literal l') where
  depth := id
  members made := by
    obtain ⟨n, code, rfl⟩ := (map_eq_ok_iff ..).mp made
    exact (map_eq_ok_iff ..).mpr ⟨n, memberCode_again same code, rfl⟩

theorem refines_range {high high' : Literal} (low : l.Same l') (upper : high.Same high') :
    (range x l high).Refines (range x' l' high') where
  depth := id
  members made := by
    obtain ⟨m, code, behind⟩ := (bind_eq_ok_iff ..).mp made
    obtain ⟨n, code', rfl⟩ := (map_eq_ok_iff ..).mp behind
    exact (bind_eq_ok_iff ..).mpr ⟨m, memberCode_again low code,
      (map_eq_ok_iff ..).mpr ⟨n, memberCode_again upper code', rfl⟩⟩

theorem refines_ascii {kind : AsciiClass} : (ascii x kind negated).Refines (ascii x' kind negated) where
  depth := id
  members made := by
    obtain ⟨s, class_, rfl⟩ := (map_eq_ok_iff ..).mp made
    exact (map_eq_ok_iff ..).mpr ⟨s, checkText_again class_, rfl⟩

theorem refines_property {query query' : Unicode.Query} (same : ∀ s, query.resolve = .ok s → query' = query) :
    (property x query negated).Refines (property x' query' negated) where
  depth := id
  members made := by
    obtain ⟨s, class_, rfl⟩ := (map_eq_ok_iff ..).mp made
    exact (map_eq_ok_iff ..).mpr ⟨s, propertyClass_again same class_, rfl⟩

theorem refines_shorthand {kind : Shorthand} :
    (shorthand x kind negated).Refines (shorthand x' kind negated) where
  depth := id
  members made := by
    obtain ⟨s, class_, rfl⟩ := (map_eq_ok_iff ..).mp made
    exact (map_eq_ok_iff ..).mpr ⟨s, checkText_again class_, rfl⟩

theorem refines_bracketed (inner : a.Refines a') :
    (bracketed x negated a).Refines (bracketed x' negated a') where
  depth fine := deeper_again inner.depth fine
  members made := by
    obtain ⟨s, set, behind⟩ := (bind_eq_ok_iff ..).mp made
    obtain ⟨s', class_, rfl⟩ := (map_eq_ok_iff ..).mp behind
    exact (bind_eq_ok_iff ..).mpr ⟨s, inner.members set,
      (map_eq_ok_iff ..).mpr ⟨s', checkText_again class_, rfl⟩⟩

theorem membersOfAll_again (all : List.Forall₂ Refines items items') {sets : List CharSet}
    (made : membersOfAll flags items = .ok sets) : membersOfAll flags items' = .ok sets := by
  induction all generalizing sets with
  | nil => exact made
  | cons first _ ih =>
    obtain ⟨s, set, behind⟩ := (bind_eq_ok_iff ..).mp made
    obtain ⟨others, rest, rfl⟩ := (map_eq_ok_iff ..).mp behind
    exact (bind_eq_ok_iff ..).mpr ⟨s, first.members set, (map_eq_ok_iff ..).mpr ⟨others, ih rest, rfl⟩⟩

theorem checkItemsDepth_again (all : List.Forall₂ Refines items items') {depth : Nat}
    (fine : checkItemsDepth depth items = .ok ()) : checkItemsDepth depth items' = .ok () := by
  induction all with
  | nil => exact fine
  | cons first _ ih =>
    obtain ⟨_, head, rest⟩ := (bind_eq_ok_iff ..).mp fine
    exact (bind_eq_ok_iff ..).mpr ⟨_, first.depth head, ih rest⟩

theorem refines_union (all : List.Forall₂ Refines items items') : (union x items).Refines (union x' items') where
  depth fine := deeper_again (checkItemsDepth_again all) fine
  members made := by
    obtain ⟨sets, each, rfl⟩ := (map_eq_ok_iff ..).mp made
    exact (map_eq_ok_iff ..).mpr ⟨sets, membersOfAll_again all each, rfl⟩

theorem refines_operation {op : SetOperation} (left : a.Refines a') (right : b.Refines b') :
    (operation x op a b).Refines (operation x' op a' b') where
  depth fine := by
    refine deeper_again (fun both => ?_) fine
    obtain ⟨_, first, second⟩ := (bind_eq_ok_iff ..).mp both
    exact (bind_eq_ok_iff ..).mpr ⟨_, left.depth first, right.depth second⟩
  members made := by
    obtain ⟨s, set, behind⟩ := (bind_eq_ok_iff ..).mp made
    obtain ⟨s', set', rfl⟩ := (map_eq_ok_iff ..).mp behind
    exact (bind_eq_ok_iff ..).mpr ⟨s, left.members set,
      (map_eq_ok_iff ..).mpr ⟨s', right.members set', rfl⟩⟩

end ClassSet

/-! ## Trees -/

namespace Tree

/-- A tree that a repetition can apply to. -/
def Repeatable : Tree → Prop
  | .empty _ | .flags .. => False
  | _ => True

/-- The same expression wherever there is one, and no deeper nesting. -/
structure Refines (t t' : Tree) : Prop where
  toExpr {flags : Flags} {r : Expr × Flags} (made : t.toExpr flags = .ok r) : t'.toExpr flags = .ok r
  depth {depth : Nat} (fine : checkDepth depth t = .ok ()) : checkDepth depth t' = .ok ()
  repeatable (counted : t.Repeatable) : t'.Repeatable

variable {t t' : Tree} {parts parts' : List Tree} {negated : Bool}

theorem refines_empty : (empty x).Refines (empty x') := ⟨id, id, id⟩

theorem refines_flags {items : List FlagItem} : (Tree.flags x items).Refines (Tree.flags x' items) := ⟨id, id, id⟩

theorem refines_assertion {kind : Assertion} : (assertion x kind).Refines (assertion x' kind) := ⟨id, id, id⟩

theorem refines_literal (same : l.Same l') : (literal l).Refines (literal l') where
  depth := id
  repeatable := id
  toExpr made := by
    obtain ⟨c, char, rfl⟩ := (map_eq_ok_iff ..).mp made
    exact (map_eq_ok_iff ..).mpr ⟨c, literalChar_again same char, rfl⟩

theorem refines_dot : (dot x).Refines (dot x') where
  depth := id
  repeatable := id
  toExpr made := by
    rw [Tree.toExpr] at made ⊢
    split at made
    · next unicode =>
      rw [if_pos unicode]
      exact made
    · cases made

theorem refines_property {query query' : Unicode.Query} (same : ∀ s, query.resolve = .ok s → query' = query) :
    (property x query negated).Refines (property x' query' negated) where
  depth := id
  repeatable := id
  toExpr made := by
    obtain ⟨s, class_, rfl⟩ := (map_eq_ok_iff ..).mp made
    exact (map_eq_ok_iff ..).mpr ⟨s, propertyClass_again same class_, rfl⟩

theorem refines_shorthand {kind : Shorthand} :
    (shorthand x kind negated).Refines (shorthand x' kind negated) where
  depth := id
  repeatable := id
  toExpr made := by
    obtain ⟨s, class_, rfl⟩ := (map_eq_ok_iff ..).mp made
    exact (map_eq_ok_iff ..).mpr ⟨s, checkText_again class_, rfl⟩

theorem refines_bracketed {a a' : ClassSet} (inner : a.Refines a') :
    (bracketed x negated a).Refines (bracketed x' negated a') where
  repeatable := id
  depth fine := deeper_again inner.depth fine
  toExpr made := by
    obtain ⟨s, set, behind⟩ := (bind_eq_ok_iff ..).mp made
    obtain ⟨s', class_, rfl⟩ := (map_eq_ok_iff ..).mp behind
    exact (bind_eq_ok_iff ..).mpr ⟨s, inner.members set,
      (map_eq_ok_iff ..).mpr ⟨s', checkText_again class_, rfl⟩⟩

theorem refines_repetition {counts : Counts} {greedy : Bool} (inner : t.Refines t') :
    (repetition x counts greedy t).Refines (repetition x' counts greedy t') where
  repeatable := id
  depth fine := deeper_again inner.depth fine
  toExpr made := by
    obtain ⟨r, sub, rfl⟩ := (map_eq_ok_iff ..).mp made
    exact (map_eq_ok_iff ..).mpr ⟨r, inner.toExpr sub, rfl⟩

theorem refines_group {kind : GroupKind} (inner : t.Refines t') : (group x kind t).Refines (group x' kind t') where
  repeatable := id
  depth fine := deeper_again inner.depth fine
  toExpr made := by
    cases kind
    all_goals
      obtain ⟨r, sub, rfl⟩ := (map_eq_ok_iff ..).mp made
      exact (map_eq_ok_iff ..).mpr ⟨r, inner.toExpr sub, rfl⟩

theorem toExprs_again (all : List.Forall₂ Refines parts parts') {flags : Flags} {r : List Expr × Flags}
    (made : toExprs flags parts = .ok r) : toExprs flags parts' = .ok r := by
  induction all generalizing flags r with
  | nil => exact made
  | cons first _ ih =>
    obtain ⟨e, head, behind⟩ := (bind_eq_ok_iff ..).mp made
    obtain ⟨es, rest, rfl⟩ := (map_eq_ok_iff ..).mp behind
    exact (bind_eq_ok_iff ..).mpr ⟨e, first.toExpr head, (map_eq_ok_iff ..).mpr ⟨es, ih rest, rfl⟩⟩

theorem checkPartsDepth_again (all : List.Forall₂ Refines parts parts') {depth : Nat}
    (fine : checkPartsDepth depth parts = .ok ()) : checkPartsDepth depth parts' = .ok () := by
  induction all with
  | nil => exact fine
  | cons first _ ih =>
    obtain ⟨_, head, rest⟩ := (bind_eq_ok_iff ..).mp fine
    exact (bind_eq_ok_iff ..).mpr ⟨_, first.depth head, ih rest⟩

theorem refines_concat (all : List.Forall₂ Refines parts parts') : (concat x parts).Refines (concat x' parts') where
  repeatable := id
  depth fine := deeper_again (checkPartsDepth_again all) fine
  toExpr made := by
    obtain ⟨r, each, rfl⟩ := (map_eq_ok_iff ..).mp made
    exact (map_eq_ok_iff ..).mpr ⟨r, toExprs_again all each, rfl⟩

theorem refines_alternation (all : List.Forall₂ Refines parts parts') :
    (alternation x parts).Refines (alternation x' parts') where
  repeatable := id
  depth fine := deeper_again (checkPartsDepth_again all) fine
  toExpr made := by
    obtain ⟨r, each, rfl⟩ := (map_eq_ok_iff ..).mp made
    exact (map_eq_ok_iff ..).mpr ⟨r, toExprs_again all each, rfl⟩

end Tree

end MockSchema.Pattern
