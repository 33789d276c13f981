import MockSchema.Pattern.Compiled
import MockSchema.Proofs.UnicodeSpans

/-!
# The form of compiled patterns

What can be relied on in an expression that came out of a pattern text: the spans of every class ascend
without meeting, and every choice has a branch (`compile_formed`). Each function named after a constructor
keeps this form, and so does reading a class, flag by flag and item by item.
-/

namespace MockSchema.Pattern

open CharSet

namespace Expr

mutual

/-- Classes are proper sets, and choices have branches. -/
def Formed : Expr → Prop
  | .class _ set => set.Proper
  | .repetition _ _ sub => sub.Formed
  | .capture _ _ sub => sub.Formed
  | .concat parts => AreFormed parts
  | .alternation branches => branches ≠ [] ∧ AreFormed branches
  | _ => True

def AreFormed : List Expr → Prop
  | [] => True
  | e :: rest => e.Formed ∧ AreFormed rest

end

theorem areFormed_iff (es : List Expr) : AreFormed es ↔ ∀ e ∈ es, e.Formed := by
  induction es with
  | nil => simp [AreFormed]
  | cons e es ih => simp [AreFormed, ih]

theorem nothing_formed : nothing.Formed := empty_canonical.proper

theorem ofClass_formed (alphabet : Alphabet) {set : CharSet} (h : set.Proper) :
    (ofClass alphabet set).Formed := by
  unfold ofClass
  split
  · exact nothing_formed
  · split
    · trivial
    · exact h

theorem repeating_formed (counts : Counts) (greedy : Bool) {sub : Expr} (h : sub.Formed) :
    (repeating counts greedy sub).Formed := by
  unfold repeating
  dsimp only
  generalize (if sub.isBlank = true then counts.upToOne else counts) = counts
  split
  · trivial
  · split
    · exact h
    · exact h

/-! ## Sequences -/

theorem parts_formed {e : Expr} (h : e.Formed) : ∀ part ∈ e.parts, part.Formed := by
  cases e with
  | concat es => exact (areFormed_iff es).mp h
  | _ => simpa [parts] using h

theorem ofParts_formed {es : List Expr} (h : ∀ e ∈ es, e.Formed) : (ofParts es).Formed := by
  unfold ofParts
  split
  · trivial
  · exact h _ (by simp)
  · exact (areFormed_iff es).mpr h

theorem joinLiteral_formed {e : Expr} {rest : List Expr} (h : e.Formed)
    (hs : ∀ e ∈ rest, e.Formed) : ∀ part ∈ joinLiteral e rest, part.Formed := by
  unfold joinLiteral
  split
  · exact hs
  · exact List.forall_mem_cons.mpr ⟨trivial, (List.forall_mem_cons.mp hs).2⟩
  · exact List.forall_mem_cons.mpr ⟨h, hs⟩

theorem sequence_formed {es : List Expr} (h : ∀ e ∈ es, e.Formed) : (sequence es).Formed := by
  have flat : ∀ part ∈ es.flatMap parts, part.Formed := by
    intro part member
    obtain ⟨e, listed, member⟩ := List.mem_flatMap.mp member
    exact parts_formed (h e listed) part member
  refine ofParts_formed ?_
  generalize es.flatMap parts = all at flat
  induction all with
  | nil => simp
  | cons part rest ih =>
    obtain ⟨first, flat⟩ := List.forall_mem_cons.mp flat
    exact joinLiteral_formed first (ih flat)

/-! ## Choices -/

theorem branches_formed {e : Expr} (h : e.Formed) : ∀ branch ∈ e.branches, branch.Formed := by
  cases e with
  | alternation es => exact (areFormed_iff es).mp h.2
  | _ => simpa [branches] using h

theorem singleton?_isSpan {e : Expr} {n : Nat} (single : e.singleton? = some n) :
    IsSpan (n, n) := by
  unfold singleton? at single
  split at single
  · next c =>
    cases single
    exact isSpan_char c
  · cases single

theorem classSet?_ends {e : Expr} {set : CharSet} (h : e.Formed) (found : e.classSet? = some set) :
    set.HasEnds := by
  unfold classSet? at found
  split at found
  · cases found
    exact h.ends
  · cases found

/-- What is read off every member of a list comes from one of them. -/
theorem exists_of_mapM {α β : Type} {f : α → Option β} {as : List α} {bs : List β}
    (read : as.mapM f = some bs) : ∀ b ∈ bs, ∃ a ∈ as, f a = some b := by
  induction as generalizing bs with
  | nil => simp_all
  | cons a as ih =>
    simp only [List.mapM_cons, Option.bind_eq_bind, Option.bind_eq_some_iff, Option.pure_def,
      Option.some.injEq] at read
    obtain ⟨b, first, rest, others, rfl⟩ := read
    rintro b' (_ | ⟨_, member⟩)
    · exact ⟨a, by simp, first⟩
    · obtain ⟨a', listed, found⟩ := ih others b' member
      exact ⟨a', by simp [listed], found⟩

theorem ofBranches_formed {es : List Expr} (h : ∀ e ∈ es, e.Formed) : (ofBranches es).Formed := by
  unfold ofBranches
  split
  · exact nothing_formed
  · exact h _ (by simp)
  · next some_branches _ =>
    split
    · next codes single =>
      refine ofClass_formed _ (ofSpans_canonical fun s member => ?_).proper
      obtain ⟨n, code, rfl⟩ := List.mem_map.mp member
      obtain ⟨e, -, found⟩ := exists_of_mapM single n code
      exact singleton?_isSpan found
    · split
      · next sets classes =>
        refine ofClass_formed _ (unions_canonical fun set member => ?_).proper
        obtain ⟨e, listed, found⟩ := exists_of_mapM classes set member
        exact classSet?_ends (h e listed) found
      · refine ⟨?_, (areFormed_iff es).mpr h⟩
        rintro rfl
        exact some_branches rfl

theorem commonStart_go_formed {start : List Expr} (es : List Expr)
    (h : ∀ e ∈ start, e.Formed) : ∀ e ∈ commonStart.go start es, e.Formed := by
  induction es generalizing start with
  | nil => simpa [commonStart.go] using h
  | cons e es ih =>
    cases e with
    | concat parts => exact ih fun e member => h e (List.mem_of_mem_take member)
    | _ => simp [commonStart.go]

theorem commonStart_formed {es : List Expr} (h : ∀ e ∈ es, e.Formed) :
    ∀ e ∈ commonStart es, e.Formed := by
  unfold commonStart
  split
  · exact commonStart_go_formed _ (parts_formed (e := .concat _) (h _ (by simp)))
  · simp

theorem choice_formed {es : List Expr} (h : ∀ e ∈ es, e.Formed) : (choice es).Formed := by
  have flat : ∀ branch ∈ es.flatMap branches, branch.Formed := by
    intro branch member
    obtain ⟨e, listed, member⟩ := List.mem_flatMap.mp member
    exact branches_formed (h e listed) branch member
  unfold choice
  dsimp only
  split
  · exact nothing_formed
  · next all => exact flat _ (by simp [all])
  · split
    · exact ofBranches_formed flat
    · refine sequence_formed fun e member => ?_
      rcases List.mem_append.mp member with common | last
      · exact commonStart_formed flat e common
      · cases List.mem_singleton.mp last
        refine ofBranches_formed fun e member => ?_
        obtain ⟨branch, listed, rfl⟩ := List.mem_map.mp member
        exact sequence_formed fun part behind =>
          parts_formed (flat branch listed) part (List.mem_of_mem_drop behind)

end Expr

/-! ## Classes -/

theorem asciiSet_canonical (kind : AsciiClass) : (asciiSet kind).Canonical := by
  refine ofSpans_canonical fun s member => ?_
  obtain ⟨⟨low, high⟩, listed, rfl⟩ := List.mem_map.mp member
  have ordered : ∀ span ∈ asciiSpans kind, span.1.toNat ≤ span.2.toNat := by
    cases kind <;> decide
  exact ⟨low.valid, high.valid, ordered (low, high) listed⟩

theorem shorthandSet_canonical (unicode : Bool) (kind : Shorthand) :
    (shorthandSet unicode kind).Canonical := by
  unfold shorthandSet
  split
  · cases kind with
    | digit =>
      exact Unicode.ofTables_canonical
        (Unicode.some_ends (by simp [Unicode.tables, Unicode.assignedCategories]))
    | space =>
      exact Unicode.ofTables_canonical
        (Unicode.some_ends (by simp [Unicode.tables, Unicode.binaryTables]))
    | word => exact Unicode.wordCharacter_canonical
  · exact asciiSet_canonical _

theorem foldAscii_canonical {a : CharSet} (h : a.Canonical) : (foldAscii a).Canonical := by
  refine ofSpans_canonical fun s member => ?_
  rcases List.mem_append.mp member with member | member
  · exact h.ends s member
  · obtain ⟨i, below, member⟩ := List.mem_flatMap.mp member
    have below := List.mem_range.mp below
    have code : 'a'.toNat = 97 ∧ 'A'.toNat = 65 := by decide
    simp only [code] at member
    split at member
    · simp only [List.mem_cons, List.not_mem_nil, or_false] at member
      rcases member with rfl | rfl
      · simp only [isSpan_iff]
        omega
      · simp only [isSpan_iff]
        omega
    · cases member

theorem fold_canonical (flags : Flags) {a : CharSet} (h : a.Canonical) :
    (fold flags a).Canonical := by
  unfold fold
  split
  · exact h
  · split
    · exact Unicode.foldCase_canonical h
    · exact foldAscii_canonical h

theorem negate_proper (flags : Flags) (negated : Bool) {a : CharSet} (h : a.Canonical) :
    (negate flags negated a).Proper := by
  unfold negate
  split
  · refine complement_proper ?_ h
    split <;> decide
  · exact h.proper

theorem eq_of_checkText {flags : Flags} {x : Extent} {a b : CharSet}
    (checked : checkText flags x a = .ok b) : b = a := by
  unfold checkText at checked
  split at checked
  · cases checked
    rfl
  · cases checked

theorem foldAndNegate_proper {flags : Flags} {x : Extent} {negated : Bool} {a b : CharSet}
    (h : a.Canonical) (read : foldAndNegate flags x negated a = .ok b) : b.Proper :=
  eq_of_checkText read ▸ negate_proper flags negated (fold_canonical flags h)

theorem shorthandClass_proper {flags : Flags} {x : Extent} {kind : Shorthand} {negated : Bool}
    {a : CharSet} (read : shorthandClass flags x kind negated = .ok a) : a.Proper :=
  eq_of_checkText read ▸ negate_proper flags negated (shorthandSet_canonical flags.unicode kind)

theorem propertyClass_proper {flags : Flags} {x : Extent} {query : Unicode.Query} {negated : Bool}
    {a : CharSet} (read : propertyClass flags x query negated = .ok a) : a.Proper := by
  unfold propertyClass at read
  split at read
  · cases read
  · split at read
    · next found => exact foldAndNegate_proper (Unicode.resolve_canonical found) read
    · cases read
    · cases read

/-- A code that a class takes is the code of a character. -/
theorem memberCode_isValidChar {flags : Flags} {l : Literal} {n : Nat}
    (read : memberCode flags l = .ok n) : n.isValidChar := by
  obtain ⟨c, -, read⟩ := (bind_eq_ok_iff ..).mp read
  split at read
  · cases read
  · cases read
    exact c.valid

theorem setOperation_ends (op : SetOperation) {a b : CharSet} (ha : a.HasEnds) (hb : b.HasEnds) :
    (setOperation op a b).HasEnds := by
  cases op with
  | intersection => exact inter_ends ha hb
  | difference => exact diff_ends ha hb
  | symmetricDifference => exact symmDiff_ends ha hb

mutual

/-- Every item of a class is canonical, for the spans of each are joined before they go on. -/
theorem members_canonical {flags : Flags} : ∀ {set : ClassSet} {a : CharSet},
    set.members flags = .ok a → a.Canonical
  | .empty _, a, read => by
    cases read
    exact empty_canonical
  | .literal l, a, read => by
    obtain ⟨n, code, read⟩ := (bind_eq_ok_iff ..).mp read
    cases read
    have valid := memberCode_isValidChar code
    exact one_canonical ⟨valid, valid, Nat.le_refl n⟩
  | .range _ low high, a, read => by
    obtain ⟨m, first, read⟩ := (bind_eq_ok_iff ..).mp read
    obtain ⟨n, last, read⟩ := (bind_eq_ok_iff ..).mp read
    cases read
    have first := memberCode_isValidChar first
    have last := memberCode_isValidChar last
    refine one_canonical ((isSpan_iff _).mpr ?_)
    simp only [Nat.isValidChar] at first last
    omega
  | .ascii x kind negated, a, read => by
    obtain ⟨b, named, read⟩ := (bind_eq_ok_iff ..).mp read
    cases read
    exact (foldAndNegate_proper (asciiSet_canonical kind) named).ends.canonical
  | .property x query negated, a, read => by
    obtain ⟨b, named, read⟩ := (bind_eq_ok_iff ..).mp read
    cases read
    exact (propertyClass_proper named).ends.canonical
  | .shorthand x kind negated, a, read => by
    obtain ⟨b, named, read⟩ := (bind_eq_ok_iff ..).mp read
    cases read
    exact (shorthandClass_proper named).ends.canonical
  | .bracketed x negated set, a, read => by
    obtain ⟨b, inner, read⟩ := (bind_eq_ok_iff ..).mp read
    obtain ⟨c, outer, read⟩ := (bind_eq_ok_iff ..).mp read
    cases read
    exact (foldAndNegate_proper (members_canonical inner) outer).ends.canonical
  | .union _ items, a, read => by
    obtain ⟨sets, all, read⟩ := (bind_eq_ok_iff ..).mp read
    cases read
    exact unions_canonical fun s member => (membersOfAll_canonical all s member).ends
  | .operation _ op left right, a, read => by
    obtain ⟨b, first, read⟩ := (bind_eq_ok_iff ..).mp read
    obtain ⟨c, second, read⟩ := (bind_eq_ok_iff ..).mp read
    cases read
    exact (setOperation_ends op (fold_canonical flags (members_canonical first)).ends
      (fold_canonical flags (members_canonical second)).ends).canonical

theorem membersOfAll_canonical {flags : Flags} : ∀ {items : List ClassSet} {sets : List CharSet},
    ClassSet.membersOfAll flags items = .ok sets → ∀ a ∈ sets, a.Canonical
  | [], sets, read => by
    cases read
    simp
  | item :: items, sets, read => by
    obtain ⟨a, first, read⟩ := (bind_eq_ok_iff ..).mp read
    obtain ⟨others, rest, read⟩ := (bind_eq_ok_iff ..).mp read
    cases read
    exact List.forall_mem_cons.mpr ⟨members_canonical first, membersOfAll_canonical rest⟩

end

/-! ## Trees -/

theorem literalExpr_formed (flags : Flags) (c : Char) : (literalExpr flags c).Formed := by
  unfold literalExpr
  dsimp only
  generalize (if flags.unicode = true then Unicode.hasCaseVariant c else c.isAlpha) = varies
  split
  · exact Expr.ofClass_formed _ (fold_canonical flags (one_canonical (isSpan_char c))).proper
  · trivial

theorem dotSet_proper (flags : Flags) : (dotSet flags).Proper := by
  refine complement_proper (by decide) ⟨?_, ?_⟩
  · dsimp only [HasEnds]
    split
    · simp
    · split <;> decide
  · dsimp only
    split
    · simp
    · split <;> decide

mutual

theorem toExpr_formed : ∀ {flags after : Flags} {t : Tree} {e : Expr},
    t.toExpr flags = .ok (e, after) → e.Formed
  | _, _, .empty _, e, read => by
    cases read
    trivial
  | _, _, .flags _ _, e, read => by
    cases read
    trivial
  | flags, _, .literal l, e, read => by
    obtain ⟨c, -, read⟩ := (bind_eq_ok_iff ..).mp read
    cases read
    exact literalExpr_formed flags c
  | flags, _, .dot x, e, read => by
    simp only [Tree.toExpr] at read
    split at read
    · cases read
      exact Expr.ofClass_formed _ (dotSet_proper flags)
    · cases read
  | _, _, .assertion _ _, e, read => by
    cases read
    trivial
  | _, _, .property x query negated, e, read => by
    obtain ⟨a, named, read⟩ := (bind_eq_ok_iff ..).mp read
    cases read
    exact Expr.ofClass_formed _ (propertyClass_proper named)
  | _, _, .shorthand x kind negated, e, read => by
    obtain ⟨a, named, read⟩ := (bind_eq_ok_iff ..).mp read
    cases read
    exact Expr.ofClass_formed _ (shorthandClass_proper named)
  | _, _, .bracketed x negated set, e, read => by
    obtain ⟨a, inner, read⟩ := (bind_eq_ok_iff ..).mp read
    obtain ⟨b, outer, read⟩ := (bind_eq_ok_iff ..).mp read
    cases read
    exact Expr.ofClass_formed _ (foldAndNegate_proper (members_canonical inner) outer)
  | _, _, .repetition _ counts greedy sub, e, read => by
    obtain ⟨⟨inside, behind⟩, inner, read⟩ := (bind_eq_ok_iff ..).mp read
    cases read
    exact Expr.repeating_formed counts _ (toExpr_formed inner)
  | _, _, .group _ (.capture index name) sub, e, read => by
    obtain ⟨⟨inside, behind⟩, inner, read⟩ := (bind_eq_ok_iff ..).mp read
    cases read
    have formed : inside.Formed := toExpr_formed inner
    exact formed
  | _, _, .group _ (.plain items) sub, e, read => by
    obtain ⟨⟨inside, behind⟩, inner, read⟩ := (bind_eq_ok_iff ..).mp read
    cases read
    exact toExpr_formed inner
  | _, _, .alternation _ branches, e, read => by
    obtain ⟨⟨es, behind⟩, inner, read⟩ := (bind_eq_ok_iff ..).mp read
    cases read
    exact Expr.choice_formed (toExprs_formed inner)
  | _, _, .concat _ parts, e, read => by
    obtain ⟨⟨es, behind⟩, inner, read⟩ := (bind_eq_ok_iff ..).mp read
    cases read
    exact Expr.sequence_formed (toExprs_formed inner)

theorem toExprs_formed : ∀ {flags after : Flags} {ts : List Tree} {es : List Expr},
    Tree.toExprs flags ts = .ok (es, after) → ∀ e ∈ es, e.Formed
  | _, _, [], es, read => by
    cases read
    simp
  | _, _, t :: ts, es, read => by
    obtain ⟨⟨e, behind⟩, first, read⟩ := (bind_eq_ok_iff ..).mp read
    obtain ⟨⟨others, last⟩, rest, read⟩ := (bind_eq_ok_iff ..).mp read
    cases read
    exact List.forall_mem_cons.mpr ⟨toExpr_formed first, toExprs_formed rest⟩

end

/-- Whatever a pattern text stands for has the form that drawing relies on. -/
theorem compile_formed {text : List Char} {e : Expr} (compiled : compile text = .ok e) :
    e.Formed := by
  obtain ⟨tree, -, read⟩ := (bind_eq_ok_iff ..).mp compiled
  obtain ⟨⟨inside, behind⟩, meant, read⟩ := (bind_eq_ok_iff ..).mp read
  cases read
  exact toExpr_formed meant

theorem ofText_eq_ok {text : String} {settings : Settings} {p : Pattern}
    (read : ofText text settings = .ok p) :
    p.text = text ∧ p.settings = settings ∧ p.expr.Formed := by
  unfold ofText at read
  obtain ⟨e, compiled, made⟩ := (bind_eq_ok_iff ..).mp read
  cases made
  exact ⟨rfl, rfl, compile_formed compiled⟩

end MockSchema.Pattern
