import MockSchema.Proofs.EscapeSimulation

/-!
# Reading classes in two texts

The items of a class are read alike, with what is open around them. An escaped slash is an item of the first text
where the slash is one of the second.
-/

namespace MockSchema.Pattern

open Reader ReaderState

variable {s s' : ReaderState} {c : Char} {start start' : Position} {x : Extent}

/-- Items one by one. -/
def Items.Refines (u u' : Items) : Prop := List.Forall₂ ClassSet.Refines u.items u'.items

theorem Items.Refines.push {u u' : Items} (refines : u.Refines u') {item item' : ClassSet}
    (last : item.Refines item') : (u.push item).Refines (u'.push item') := .cons last refines

theorem Items.Refines.toSet {u u' : Items} (refines : u.Refines u') : u.toSet.Refines u'.toSet := by
  obtain ⟨x, items⟩ := u
  obtain ⟨x', items'⟩ := u'
  cases refines with
  | nil => exact ClassSet.refines_empty
  | cons first others =>
    cases others with
    | nil => exact first
    | cons second others =>
      exact ClassSet.refines_union (List.forall₂_reverse_iff.mpr (.cons first (.cons second others)))

/-- What was read in both texts. -/
def SameItems (u u' : Items) (_ : ReaderState) : Prop := u.Refines u'

theorem fails_unclosedClass {α : Type} : Fails (unclosedClass : Reader α) := .after fun _ => .fault

theorem leadingMinuses_nil (u : Items) (n : Nat) (empty : s.rest = []) :
    leadingMinuses start u n s = .ok (u, s) := by
  obtain ⟨rest, position, ignoreSpace, captures, names, opened, classes⟩ := s
  cases empty
  cases n <;> rfl

theorem leadingMinuses_simulates {n n' : Nat} {u u' : Items} (refines : u.Refines u') (alike : s.Alike s')
    (fuel : s.rest.length ≤ n) (fuel' : s'.rest.length ≤ n') :
    Simulates 0 s s' (leadingMinuses start u n) (leadingMinuses start' u' n') SameItems := by
  refine Simulates.loopWhile (y := leadingMinuses start) (z := leadingMinuses start')
    (P := fun u u' s s' => u.Refines u' ∧ s.Alike s') ?_ ?_ ⟨refines, alike⟩ fuel fuel'
  · rintro u u' n n' s s' ⟨refines, alike⟩ empty
    obtain ⟨empty, empty'⟩ := alike.nil_of_or empty
    exact .of_run (leadingMinuses_nil u n empty) (leadingMinuses_nil u' n' empty') refines (.refl alike)
  · rintro u u' n n' s s' ⟨refines, alike⟩ next
    rw [leadingMinuses, leadingMinuses]
    refine .ifNext alike (by decide) (fun before => .hereChar fun x x' => ?_) fun _ => .pure alike refines
    refine (bumpOr_simulates before (.first .fault) fun after => ?_).weaken
    exact next ⟨refines.push (ClassSet.refines_literal ⟨rfl, rfl⟩), after.alike⟩ after.taken after.taken'

/-- The rest of `beginClass` behind the caret. -/
def beginItems (before : Items) (start : Position) (negated : Bool) : Reader Items := do
  let u ← leadingMinuses start ⟨← here, []⟩ (← rest).length
  let u ←
    if u.items.isEmpty ∧ (← peek) = some ']' then do
      let u := u.push (.literal ⟨← hereChar, ']', false⟩)
      if !(← bumpAndSkip) then fault .openClass (← extentFrom start)
      pure u
    else pure u
  let x ← extentFrom start
  modify fun s => { s with classes := .class before.items before.extent x negated :: s.classes }
  return u

theorem beginItems_simulates {before before' : Items} (around : before.Refines before') (negated : Bool)
    (alike : s.Alike s') :
    Simulates 0 s s' (beginItems before start negated) (beginItems before' start' negated) SameItems := by
  have opens {u u' : Items} {t t' : ReaderState} (refines : u.Refines u') (alike : t.Alike t') :
      Simulates 0 t t'
        (do
          let x ← extentFrom start
          modify fun s => { s with classes := .class before.items before.extent x negated :: s.classes }
          return u)
        (do
          let x ← extentFrom start'
          modify fun s => { s with classes := .class before'.items before'.extent x negated :: s.classes }
          return u')
        SameItems := by
    exact .of_run rfl rfl refines
      (alike.follows (alike.around.withClasses (.cons (.class around) alike.around.classes)) rfl rfl)
  unfold beginItems
  refine .reads rfl rfl (.reads rfl rfl ?_)
  refine .bind (leadingMinuses_simulates .nil alike (Nat.le_refl _) (Nat.le_refl _)) fun {u u' t t'} refines after => ?_
  rw [← isEmpty_eq_of_forall₂ refines]
  cases u.items.isEmpty with
  | true =>
    simp only [true_and]
    simp only [pure_bind]
    refine .ifNext after.alike (by decide) (fun bracket => .hereChar fun x x' => ?_) fun _ => opens refines after.alike
    refine (bumpOr_simulates bracket (.after fun _ => .first .fault) fun after => ?_).weaken
    exact opens (refines.push (ClassSet.refines_literal ⟨rfl, rfl⟩)) after.alike
  | false =>
    simp only [Bool.false_eq_true, false_and, if_false]
    exact .reads rfl rfl (opens refines after.alike)

theorem beginClass_simulates {before before' : Items} (around : before.Refines before') (opening : Before '[' s s') :
    Simulates 1 s s' (beginClass before) (beginClass before') SameItems := by
  unfold beginClass
  refine .reads rfl rfl (bumpOr_simulates opening (.after fun _ => .first .fault) fun {t t'} after => ?_)
  refine .look ?_
  have same := after.alike.rest.head?_eq_some_iff (c := '^') (by decide)
  by_cases caret : t.rest.head? = some '^'
  · have before := after.alike.before (by decide) caret
    simp only [caret, same.mp caret, if_true]
    exact (bumpOr_simulates before (.after fun _ => .first .fault) fun after =>
      beginItems_simulates around true after.alike).weaken
  · simp only [caret, mt same.mpr caret, if_false]
    exact beginItems_simulates around false after.alike

/-! ## Set operations -/

theorem closeOperation_simulates {right right' : ClassSet} (refines : right.Refines right') (alike : s.Alike s') :
    Simulates 0 s s' (closeOperation right) (closeOperation right') fun a a' t => a.Refines a' ∧ t.rest = s.rest := by
  refine .getState ?_
  have around := alike.around
  generalize classes : s.classes = outer
  generalize classes' : s'.classes = outer'
  have same := around.classes
  rw [classes, classes'] at same
  cases same with
  | nil => exact .pure alike ⟨refines, rfl⟩
  | cons first outer =>
    cases first with
    | «class» items => exact .pure alike ⟨refines, rfl⟩
    | operation left =>
      exact .of_run rfl rfl ⟨ClassSet.refines_operation left refines, rfl⟩
        (alike.follows (around.withClasses outer) rfl rfl)

theorem openOperation_simulates {op : SetOperation} {u u' : Items} (refines : u.Refines u') (alike : s.Alike s') :
    Simulates 0 s s' (openOperation op u) (openOperation op u') SameItems := by
  refine .bind (closeOperation_simulates refines.toSet alike) fun left after => ?_
  have around := after.alike.around
  exact .of_run rfl rfl .nil
    (after.alike.follows (around.withClasses (.cons (.operation left.1) around.classes)) rfl rfl)

/-! ## The end of a class -/

/-- A class in both texts, or the items around it. -/
inductive Closed : Tree ⊕ Items → Tree ⊕ Items → ReaderState → Prop
  | whole {t t' s} (refines : t.Refines t') : Closed (.inl t) (.inl t') s
  | items {u u' s} (refines : u.Refines u') : Closed (.inr u) (.inr u') s

theorem closeClass_simulates {u u' : Items} (refines : u.Refines u') (closing : Before ']' s s') :
    Simulates 1 s s' (closeClass u) (closeClass u') Closed := by
  have alike := closing.alike (by decide)
  refine .bind (closeOperation_simulates refines.toSet alike) fun {a a' t t'} ⟨set, left⟩ after => ?_
  have closing := after.alike.before (c := ']') (by decide) (left ▸ closing.head?.1)
  refine .getState ?_
  have same := after.alike.around.classes
  generalize t.classes = classes at same
  generalize t'.classes = classes' at same
  cases same with
  | nil => exact .of_fails fails_unclosedClass
  | cons first outer =>
    cases first with
    | operation => exact .of_fails fails_unclosedClass
    | «class» items =>
      refine .step (bump_simulates closing) fun {_ _ v v'} _ after => ?_
      have behind {classes classes' : List OpenClass} (outer : List.Forall₂ OpenClass.Alike classes classes') :
          Follows 0 v v' { v with classes := classes } { v' with classes := classes' } :=
        after.alike.follows (after.alike.around.withClasses outer) rfl rfl
      cases outer with
      | nil => exact .of_run rfl rfl (.whole (Tree.refines_bracketed set)) (behind .nil)
      | cons first outer =>
        exact .of_run rfl rfl (.items (.cons (ClassSet.refines_bracketed set) items)) (behind (.cons first outer))

/-! ## Items -/

/-- An escaped slash is read like a slash. -/
theorem readEscape_simulates_slash {r r' : List Char} (written : s.rest = '\\' :: '/' :: r)
    (written' : s'.rest = '/' :: r') (rest : Unescapes r r') (around : s.Around s') :
    Simulates 1 s s' readEscape (do bump; return Primitive.literal ⟨x, '/', false⟩) SamePrimitive := by
  obtain ⟨y, p, ran⟩ := readEscape_slash written
  exact .of_run ran (run_bind (bump_run written')) (.literal ⟨rfl, rfl⟩)
    ⟨⟨rest, around.moved⟩, by simp [written], by simp [written']⟩

/-- From an escape on the same escape is read in the second text, or a slash. -/
theorem readEscape_simulates_either (alike : s.Alike s') (first : s.rest.head? = some '\\')
    (first' : s'.rest.head? = some c) :
    c = '\\' ∧ Simulates 1 s s' readEscape readEscape SamePrimitive ∨
      c = '/' ∧ ∀ x, Simulates 1 s s' readEscape (do bump; return .literal ⟨x, '/', false⟩) SamePrimitive := by
  obtain ⟨d, r, r', written, rest, ⟨written', -⟩ | ⟨written', rfl⟩⟩ := alike.escape first
  · rw [written'] at first'
    cases first'
    exact .inl ⟨rfl, readEscape_simulates written written' rest alike.around⟩
  · rw [written'] at first'
    cases first'
    exact .inr ⟨rfl, fun x => readEscape_simulates_slash written written' rest alike.around⟩

theorem readItem_simulates (alike : s.Alike s') : Simulates 1 s s' readItem readItem SamePrimitive := by
  refine .peek alike (fun _ _ => .of_fails fails_unclosedClass) (fun c self before => ?_) fun c _ first first' => ?_
  · split
    · next backslash =>
      cases backslash
      exact absurd rfl self.1
    · next d _ same =>
      cases same
      exact .hereChar fun x x' => .step (bump_simulates before) fun _ after =>
        .pure after.alike (.literal ⟨rfl, rfl⟩)
    · next none => cases none
  · rcases readEscape_simulates_either alike first first' with ⟨rfl, escape⟩ | ⟨rfl, slash⟩
    · exact escape
    · exact .hereChar_right slash

theorem Primitive.Refines.toItem {p p' : Primitive} (refines : p.Refines p') (alike : s.Alike s') :
    Simulates 0 s s' p.toItem p'.toItem SameSet := by
  cases refines with
  | literal same => exact .pure alike (ClassSet.refines_literal same)
  | assertion => exact .of_fails .fault
  | dot => exact .of_fails .fault
  | property same => exact .pure alike (ClassSet.refines_property same)
  | shorthand => exact .pure alike ClassSet.refines_shorthand

theorem Primitive.Refines.toBound {p p' : Primitive} (refines : p.Refines p') (alike : s.Alike s') :
    Simulates 0 s s' p.toBound p'.toBound SameLiteral := by
  cases refines with
  | literal same => exact .pure alike same
  | assertion => exact .of_fails .fault
  | dot => exact .of_fails .fault
  | property => exact .of_fails .fault
  | shorthand => exact .of_fails .fault

/-- The same character ahead, or a slash in the second text where it is escaped in the first one. -/
def SameAhead (ahead ahead' : Option Char) : Prop := ahead = ahead' ∨ ahead = some '\\' ∧ ahead' = some '/'

theorem SameAhead.eq_some_iff {ahead ahead' : Option Char} (same : SameAhead ahead ahead') (self : NoSlash c) :
    ahead = some c ↔ ahead' = some c := by
  rcases same with rfl | ⟨rfl, rfl⟩
  · exact Iff.rfl
  · simp [self.1.symm, self.2.symm]

theorem SameAhead.or {ahead ahead' other other' : Option Char} (same : SameAhead ahead ahead')
    (same' : SameAhead other other') : SameAhead (ahead.or other) (ahead'.or other') := by
  rcases same with rfl | ⟨rfl, rfl⟩
  · cases ahead with
    | none => exact same'
    | some => exact .inl rfl
  · exact .inr ⟨rfl, rfl⟩

theorem sameAhead_head? {r r' : List Char} (h : Unescapes r r') : SameAhead r.head? r'.head? := by
  cases h with
  | slash => exact .inr ⟨rfl, rfl⟩
  | _ => exact .inl rfl

theorem sameAhead_afterBlanks {r r' : List Char} (h : Unescapes r r') (inComment : Bool) :
    SameAhead (afterBlanks inComment r) (afterBlanks inComment r') := by
  have backslash := isWhiteSpace_eq_false (c := '\\') (by decide)
  have slash := isWhiteSpace_eq_false (c := '/') (by decide)
  induction h generalizing inComment with
  | nil => exact .inl rfl
  | @plain d r r' self rest ih =>
    rw [afterBlanks, afterBlanks]
    split
    · exact ih inComment
    split
    · exact ih true
    · exact .inl rfl
  | escape => exact .inl (by simp [afterBlanks, backslash])
  | slash => exact .inr (by simp [afterBlanks, backslash, slash])

/-- The second character ahead. -/
def secondAhead (s : ReaderState) : Option Char :=
  let ahead := s.rest.drop 1
  if s.ignoreSpace && !s.rest.isEmpty then (afterBlanks false ahead).or ahead.head? else ahead.head?

theorem peekSecond_run (s : ReaderState) : peekSecond s = .ok (secondAhead s, s) := by
  obtain ⟨rest, position, ignoreSpace, captures, names, opened, classes⟩ := s
  cases ignoreSpace <;> cases rest <;> rfl

/-- Behind a character that both texts share, the same character is ahead. -/
theorem secondAhead_same (before : Before c s s') : SameAhead (secondAhead s) (secondAhead s') := by
  obtain ⟨r, r', written, written', rest⟩ := before.rest
  have same := before.around.ignoreSpace
  have next := sameAhead_head? rest
  simp only [secondAhead, written, written', same, List.drop_one, List.tail_cons, List.isEmpty_cons]
  split
  · exact (sameAhead_afterBlanks rest false).or next
  · exact next

/-- The upper end of a range. -/
def readRange (first : Primitive) : Reader ClassSet := do
  let last ← readItem
  let x : Extent := ⟨first.extent.start, last.extent.stop⟩
  let low ← first.toBound
  let high ← last.toBound
  if high.char < low.char then fault .reversedClassRange x
  return .range x low high

theorem readRange_simulates {p p' : Primitive} (first : p.Refines p') (alike : s.Alike s') :
    Simulates 0 s s' (readRange p) (readRange p') SameSet := by
  refine (Simulates.step (readItem_simulates alike) fun last after => ?_).weaken
  refine .bind (first.toBound after.alike) fun {low low' _ _} same after => ?_
  refine .bind (last.toBound after.alike) fun {high high' _ _} same' after => ?_
  have char : low.char = low'.char ∧ high.char = high'.char := ⟨same.1, same'.1⟩
  dsimp only
  rw [← char.1, ← char.2]
  split
  · exact .of_fails (.first .fault)
  · exact .pure after.alike (ClassSet.refines_range same same')

theorem readItemOrRange_simulates (alike : s.Alike s') :
    Simulates 1 s s' readItemOrRange readItemOrRange SameSet := by
  unfold readItemOrRange
  refine .step (readItem_simulates alike) fun {p p' _ _} first after => ?_
  refine .bind (skipBlanks_simulates after.alike) fun {_ _ t t'} _ after => ?_
  refine .atEnd after.alike (.first fails_unclosedClass) fun _ => ?_
  refine .reads (peekSecond_run t) (peekSecond_run t') (.look ?_)
  have here := after.alike.rest.head?_eq_some_iff (c := '-') (by decide)
  by_cases minus : t.rest.head? = some '-'
  · have before := after.alike.before (by decide) minus
    have ahead := secondAhead_same before
    have alone : (secondAhead t = some ']' ∨ secondAhead t = some '-') ↔
        (secondAhead t' = some ']' ∨ secondAhead t' = some '-') :=
      or_congr (ahead.eq_some_iff (by decide)) (ahead.eq_some_iff (by decide))
    simp only [minus, here.mp minus, ne_eq, not_true_eq_false, false_or, alone]
    split
    · exact first.toItem after.alike
    · exact (bumpOr_simulates before (.first fails_unclosedClass) fun after =>
        readRange_simulates first after.alike).weaken
  · rw [if_pos (.inl minus), if_pos (.inl (mt here.mpr minus))]
    exact first.toItem after.alike

/-! ## Classes -/

/-- Neither a slash nor a backslash stands for an operation. -/
theorem operation?_eq_none (other : ¬ NoSlash c) (second : Option Char) : operation? c second = none := by
  rcases eq_or_eq_of_not_noSlash other with rfl | rfl <;> simp [operation?]

theorem bumpTimes_simulates {k n : Nat} (alike : s.Alike s') (rest : Unescapes (s.rest.drop n) (s'.rest.drop n))
    (some : k ≤ n) (inside : n ≤ s.rest.length) (inside' : n ≤ s'.rest.length) :
    Simulates k s s' (bumpTimes n) (bumpTimes n) Anything := by
  obtain ⟨p, ran⟩ := bumpTimes_run n s
  obtain ⟨p', ran'⟩ := bumpTimes_run n s'
  refine .of_run ran ran' trivial ⟨⟨rest, alike.around.moved⟩, ?_, ?_⟩
  · simp only [List.length_drop]
    omega
  · simp only [List.length_drop]
    omega

/-- An operation is written with the same character twice. -/
theorem eq_of_operation? {second : Option Char} {op : SetOperation} (known : operation? c second = some op) :
    second = some c := by
  unfold operation? at known
  split at known
  · cases known
  · next same => exact not_not.mp same

theorem operation?_again {r r' : List Char} (rest : Unescapes r r') (self : NoSlash c) :
    operation? c r.head? = operation? c r'.head? := by
  simp only [operation?, ne_eq, rest.head?_eq_some_iff self]

/-! ## Turns of a class -/

/-- Behind a turn that takes a character the items are read on alike. -/
def ReadsOn (n n' : Nat) (s s' : ReaderState) : Prop :=
  ∀ {u u' : Items} {t t' : ReaderState}, u.Refines u' → Follows 1 s s' t t' →
    Simulates 1 t t' (readItems u n) (readItems u' n') SameTree

/-- The turn of `readItems` at an opening bracket. -/
def bracketTurn (u : Items) (n : Nat) (outermost : Bool) (p : Position) (text : List Char) : Reader Tree :=
  match if outermost then none else namedClass? p text with
  | some (item, count) => do
    bumpTimes count
    readItems (u.push item) n
  | none => do readItems (← beginClass u) n

/-- The rest of the turn of `readItems` at a closing bracket. -/
def closedTurn (n : Nat) : Tree ⊕ Items → Reader Tree
  | .inl tree => return tree
  | .inr u => readItems u n

/-- The turn of `readItems` at an item. -/
def itemTurn (u : Items) (n : Nat) : Reader Tree := do readItems (u.push (← readItemOrRange)) n

/-- The turn of `readItems` at an item or an operation. -/
def otherTurn (u : Items) (n : Nat) (operation : Option SetOperation) : Reader Tree :=
  match operation with
  | some op => do
    bumpTimes 2
    readItems (← openOperation op u) n
  | none => itemTurn u n

section Turns

variable {u u' : Items} {n n' : Nat}

theorem bracketTurn_simulates (refines : u.Refines u') (before : Before '[' s s') (next : ReadsOn n n' s s')
    (outermost : Bool) (p p' : Position) :
    Simulates 1 s s' (bracketTurn u n outermost p s.rest) (bracketTurn u' n' outermost p' s'.rest) SameTree := by
  have alike := before.alike (by decide)
  have begins : Simulates 1 s s' (do readItems (← beginClass u) n) (do readItems (← beginClass u') n') SameTree :=
    (Simulates.andThen (beginClass_simulates refines before) next).weaken
  unfold bracketTurn
  cases outermost with
  | true => exact begins
  | false =>
    simp only [Bool.false_eq_true, if_false]
    rcases namedClass?_unescapes alike.rest p p' with
      ⟨none, none'⟩ | ⟨x, x', kind, negated, m, found, found', pos, inside, inside', behind⟩
    · rw [none, none']
      exact begins
    · rw [found, found']
      refine (Simulates.andThen (bumpTimes_simulates alike behind pos inside inside') fun _ after => ?_).weaken
      exact next (refines.push ClassSet.refines_ascii) after

theorem closedTurn_simulates (refines : u.Refines u') (before : Before ']' s s') (next : ReadsOn n n' s s') :
    Simulates 1 s s' (do closedTurn n (← closeClass u)) (do closedTurn n' (← closeClass u')) SameTree := by
  refine .step (closeClass_simulates refines before) fun closed after => ?_
  cases closed with
  | whole refines => exact .pure after.alike refines
  | items refines => exact (next refines after).weaken

theorem itemTurn_simulates (refines : u.Refines u') (alike : s.Alike s') (next : ReadsOn n n' s s') :
    Simulates 1 s s' (itemTurn u n) (itemTurn u' n') SameTree :=
  (Simulates.andThen (readItemOrRange_simulates alike) fun item after => next (refines.push item) after).weaken

theorem otherTurn_simulates (refines : u.Refines u') (alike : s.Alike s') (next : ReadsOn n n' s s')
    {operation : Option SetOperation}
    (twice : operation ≠ none → ∃ c, NoSlash c ∧ [c, c] <+: s.rest) :
    Simulates 1 s s' (otherTurn u n operation) (otherTurn u' n' operation) SameTree := by
  cases operation with
  | none => exact itemTurn_simulates refines alike next
  | some op =>
    obtain ⟨c, self, twice⟩ := twice nofun
    obtain ⟨same, behind⟩ := alike.rest.prefix_iff (show ∀ d ∈ [c, c], NoSlash d by simp [self])
    have steps := bumpTimes_simulates alike (behind twice) (Nat.le_succ 1) twice.length_le (same.mp twice).length_le
    exact .step steps fun _ after => .bind (openOperation_simulates refines after.alike) fun refines after' =>
      (next refines (after.trans after')).weaken

theorem readItems_simulates (refines : u.Refines u') (alike : s.Alike s') (fuel : s.rest.length < n)
    (fuel' : s'.rest.length < n') : Simulates 1 s s' (readItems u n) (readItems u' n') SameTree := by
  refine Simulates.loop (y := readItems) (z := readItems) (P := fun u u' s s' => u.Refines u' ∧ s.Alike s') ?_
    ⟨refines, alike⟩ fuel fuel'
  rintro u u' n n' s s' ⟨refines, alike⟩ next
  rw [readItems, readItems]
  refine .bind (skipBlanks_simulates alike) fun {_ _ t t'} _ after => .getState ?_
  replace next : ReadsOn n n' t t' := fun refines after' =>
    next ⟨refines, after'.alike⟩ (Nat.lt_of_lt_of_le after'.taken after.taken)
      (Nat.lt_of_lt_of_le after'.taken' after.taken')
  have alike := after.alike
  have item := itemTurn_simulates refines alike next
  generalize written : t.rest = r
  generalize written' : t'.rest = r'
  have rest := alike.rest
  rw [written, written'] at rest
  cases rest with
  | nil => exact .of_fails fails_unclosedClass
  | escape =>
    simp only [Char.reduceEq, if_false, operation?_eq_none (c := '\\') (by decide)]
    exact item
  | slash =>
    simp only [Char.reduceEq, if_false, operation?_eq_none (c := '\\') (by decide),
      operation?_eq_none (c := '/') (by decide)]
    exact item
  | @plain c r r' self rest =>
    have before : Before c t t' := ⟨⟨r, r', written, written', rest⟩, alike.around⟩
    by_cases opening : c = '['
    · subst opening
      have turn := bracketTurn_simulates refines before next t.classes.isEmpty t.position t'.position
      simp only [if_true, ← isEmpty_eq_of_forall₂ alike.around.classes]
      rw [written, written'] at turn
      exact turn
    by_cases closing : c = ']'
    · subst closing
      exact closedTurn_simulates refines before next
    simp only [opening, closing, if_false, ← operation?_again rest self]
    refine otherTurn_simulates refines alike next fun known => ?_
    obtain ⟨op, known⟩ := Option.ne_none_iff_exists'.mp known
    obtain ⟨r, rfl⟩ := List.head?_eq_some_iff.mp (eq_of_operation? known)
    exact ⟨c, self, r, written.symm⟩

end Turns

/-- A class is read alike. -/
theorem readClass_simulates (alike : s.Alike s') :
    Simulates 1 s s' readClass readClass SameTree :=
  .reads rfl rfl (.reads rfl rfl (readItems_simulates .nil alike (Nat.lt_succ_self _) (Nat.lt_succ_self _)))

end MockSchema.Pattern
