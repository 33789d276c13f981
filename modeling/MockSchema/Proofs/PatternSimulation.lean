import MockSchema.Proofs.CharMembership
import MockSchema.Proofs.ClassSimulation

/-!
# Reading patterns in two texts

Where the reader of patterns gets to the end of a text, it gets to the end of the text with slashes for its
escaped slashes, and the tree that it returns for the first one is refined (`readParts_simulates`). So that text
compiles to the same expression (`compile_again`).
-/

namespace MockSchema.Pattern

open Reader ReaderState

variable {s s' : ReaderState} {c : Char} {start start' : Position} {x x' : Extent}

/-! ## Sequences -/

/-- Sequences read in both texts. -/
def SameSequence (q q' : Sequence) (_ : ReaderState) : Prop := q.Refines q'

namespace Sequence.Refines

variable {q q' : Sequence}

theorem push (refines : q.Refines q') {part part' : Tree} (last : part.Refines part') :
    (q.push part).Refines (q'.push part') := .cons last refines

theorem close (refines : q.Refines q') (stop stop' : Position) : (q.close stop).Refines (q'.close stop') := by
  obtain ⟨start, parts⟩ := q
  obtain ⟨start', parts'⟩ := q'
  cases refines with
  | nil => exact Tree.refines_empty
  | cons first others =>
    cases others with
    | nil => exact first
    | cons second others =>
      exact Tree.refines_concat (List.forall₂_reverse_iff.mpr (.cons first (.cons second others)))

end Sequence.Refines

/-! ## Flags -/

/-- Flag lists item by item, in front of a character that ends them. -/
def SameFlags (items items' : List (FlagItem × Extent)) (t : ReaderState) : Prop :=
  items.map Prod.fst = items'.map Prod.fst ∧ ∃ c, NoSlash c ∧ t.rest.head? = some c

theorem find?_item_eq_none_iff {seen : List (FlagItem × Extent)} {item : FlagItem} :
    seen.find? (fun e => e.1 = item) = none ↔ item ∉ seen.map Prod.fst := by
  simp only [List.find?_eq_none, decide_eq_true_eq, List.mem_map, not_exists, not_and]

/-- The rest of a turn of `readFlags` behind an item. -/
def keepFlag (seen : List (FlagItem × Extent)) (n : Nat) (x : Extent) (item : FlagItem) :
    Reader (List (FlagItem × Extent)) :=
  match seen.find? fun e => e.1 = item with
  | some (_, earlier) =>
    faultWith (if item = .negation then .repeatedNegation else .repeatedFlag) x earlier
  | none => do
    bump
    if ← atEnd then fault .cutFlags (← here)
    readFlags ((item, x) :: seen) n

section Flags

variable {seen seen' : List (FlagItem × Extent)} {n n' : Nat}

theorem keepFlag_simulates (same : seen.map Prod.fst = seen'.map Prod.fst) {item : FlagItem} (before : Before c s s')
    (next : ∀ {t t'}, Follows 1 s s' t t' →
      Simulates 0 t t' (readFlags ((item, x) :: seen) n) (readFlags ((item, x') :: seen') n') SameFlags) :
    Simulates 0 s s' (keepFlag seen n x item) (keepFlag seen' n' x' item) SameFlags := by
  unfold keepFlag
  have first : seen.find? (fun e => e.1 = item) = none ↔ seen'.find? (fun e => e.1 = item) = none := by
    rw [find?_item_eq_none_iff, find?_item_eq_none_iff, same]
  cases found : seen.find? fun e => e.1 = item with
  | some e => exact .of_fails .faultWith
  | none =>
    rw [first.mp found]
    refine (Simulates.step (bump_simulates before) fun _ after => ?_).weaken
    exact .atEnd after.alike (.after fun _ => .first .fault) fun _ => next after

/-- What ends a list of flags; a minus must have flags behind it. -/
theorem endFlags_simulates (same : seen.map Prod.fst = seen'.map Prod.fst) (alike : s.Alike s') (self : NoSlash c)
    (first : s.rest.head? = some c) :
    Simulates 0 s s'
      (match seen with
        | (.negation, x) :: _ => fault .negatesNoFlag x
        | _ => return seen.reverse)
      (match seen' with
        | (.negation, x) :: _ => fault .negatesNoFlag x
        | _ => return seen'.reverse)
      SameFlags := by
  have reverse : seen.reverse.map Prod.fst = seen'.reverse.map Prod.fst := by
    rw [List.map_reverse, List.map_reverse, same]
  cases seen with
  | nil =>
    cases seen' with
    | nil => exact .pure alike ⟨reverse, c, self, first⟩
    | cons => cases same
  | cons e seen =>
    cases seen' with
    | nil => cases same
    | cons e' seen' =>
      obtain ⟨item, x⟩ := e
      obtain ⟨item', x'⟩ := e'
      cases (List.cons.inj same).1
      cases item with
      | negation => exact .of_fails .fault
      | flag => exact .pure alike ⟨reverse, c, self, first⟩

theorem readFlags_simulates (same : seen.map Prod.fst = seen'.map Prod.fst) (alike : s.Alike s')
    (fuel : s.rest.length < n) (fuel' : s'.rest.length < n') :
    Simulates 0 s s' (readFlags seen n) (readFlags seen' n') SameFlags := by
  refine Simulates.loop (y := readFlags) (z := readFlags)
    (P := fun seen seen' s s' => seen.map Prod.fst = seen'.map Prod.fst ∧ s.Alike s') ?_ ⟨same, alike⟩ fuel fuel'
  rintro seen seen' n n' s s' ⟨same, alike⟩ next
  have keep {c : Char} (before : Before c s s') (x x' : Extent) (item : FlagItem) :
      Simulates 0 s s' (keepFlag seen n x item) (keepFlag seen' n' x' item) SameFlags :=
    keepFlag_simulates same before fun after =>
      next ⟨congrArg (List.cons item) same, after.alike⟩ after.taken after.taken'
  unfold readFlags
  refine .peek alike (fun _ _ => .of_fails (.after fun _ => .fault)) (fun c self before => ?_) (fun c other _ _ => ?_)
  · dsimp only
    split
    · exact endFlags_simulates same alike self before.head?.1
    · refine .hereChar fun x x' => ?_
      split
      · exact keep before x x' .negation
      · cases flag? c with
        | none => exact .of_fails (.first .fault)
        | some f => exact keep before x x' (.flag f)
  · simp only [Char.reduceEq, or_self, if_false]
    exact .of_fails (.after fun _ => .first .fault)

end Flags

/-! ## Groups -/

theorem isAlphanumeric_backslash : Unicode.isAlphanumeric '\\' = false := by
  rw [Unicode.isAlphanumeric_eq]
  decide +kernel

/-- A backslash is in no name. -/
theorem isNameStart_backslash : isNameStart '\\' = false := by
  have alphabetic := (Bool.or_eq_false_iff.mp isAlphanumeric_backslash).1
  simp [isNameStart, alphabetic]

theorem isNameChar_backslash : isNameChar '\\' = false := by
  simp [isNameChar, isAlphanumeric_backslash]

/-- Names are the same, and the closing bracket comes next if anything does. -/
def NameBeforeBracket (cs cs' : List Char) (t : ReaderState) : Prop :=
  cs = cs' ∧ (t.rest ≠ [] → t.rest.head? = some '>')

theorem readNameChars_nil (first : Bool) (n : Nat) (empty : s.rest = []) :
    readNameChars first n s = .ok ([], s) := by
  obtain ⟨rest, position, ignoreSpace, captures, names, opened, classes⟩ := s
  cases empty
  cases n <;> rfl

theorem readNameChars_simulates {first : Bool} {n n' : Nat} (alike : s.Alike s') (fuel : s.rest.length ≤ n)
    (fuel' : s'.rest.length ≤ n') :
    Simulates 0 s s' (readNameChars first n) (readNameChars first n') NameBeforeBracket := by
  refine Simulates.loopWhile (y := readNameChars) (z := readNameChars) (P := fun b b' s s' => b = b' ∧ s.Alike s')
    ?_ ?_ ⟨rfl, alike⟩ fuel fuel'
  · rintro b _ n n' s s' ⟨rfl, alike⟩ empty
    obtain ⟨empty, empty'⟩ := alike.nil_of_or empty
    exact .of_run (readNameChars_nil b n empty) (readNameChars_nil b n' empty') ⟨rfl, fun some => absurd empty some⟩
      (.refl alike)
  · rintro b _ n n' s s' ⟨rfl, alike⟩ next
    unfold readNameChars
    refine .peek alike (fun empty _ => ?_) (fun c _ before => ?_) (fun c other _ _ => ?_)
    · exact .pure alike ⟨rfl, fun some => absurd empty some⟩
    · dsimp only
      split
      · next bracket => exact .pure alike ⟨rfl, fun _ => bracket ▸ before.head?.1⟩
      by_cases named : (if b = true then isNameStart c else isNameChar c) = true
      · simp only [named, Bool.not_true, Bool.false_eq_true, if_false]
        refine (Simulates.step (bump_simulates before) fun _ after => ?_).weaken
        exact .bind (next ⟨rfl, after.alike⟩ after.taken after.taken') fun same after' =>
          .pure after'.alike ⟨congrArg (List.cons c) same.1, same.2⟩
      · simp only [named, Bool.not_false, if_true]
        exact .of_fails (.after fun _ => .first .fault)
    · have stop : (if b = true then isNameStart '\\' else isNameChar '\\') = false := by
        rw [isNameStart_backslash, isNameChar_backslash, ite_self]
      simp only [Char.reduceEq, if_false, stop, Bool.not_false, if_true]
      exact .of_fails (.after fun _ => .first .fault)

/-- A name is known in both texts or in neither. -/
theorem lookup_eq_none_iff {names : List (String × Extent)} {name : String} :
    names.lookup name = none ↔ name ∉ names.map Prod.fst := by
  simp only [List.lookup_eq_none_iff, bne_iff_ne, List.mem_map, not_exists, not_and]
  exact forall₂_congr fun e _ => ne_comm

theorem readGroupName_simulates (alike : s.Alike s') : Simulates 0 s s' readGroupName readGroupName Same := by
  unfold readGroupName
  refine .atEnd alike (.after fun _ => .first .fault) fun _ => ?_
  refine .reads rfl rfl (.reads rfl rfl ?_)
  refine .bind (readNameChars_simulates alike (Nat.le_refl _) (Nat.le_refl _)) ?_
  rintro name _ t t' ⟨rfl, upTo⟩ after
  refine .reads rfl rfl (.atEnd after.alike (.after fun _ => .first .fault) fun some => ?_)
  have closing := after.alike.before (by decide) (upTo some)
  refine (Simulates.step (bump_simulates closing) fun {_ _ v v'} _ after => ?_).weaken
  dsimp only
  split
  · exact .of_fails (.first .fault)
  refine .getState ?_
  have around := after.alike.around
  have known : v.names.lookup (String.ofList name) = none ↔ v'.names.lookup (String.ofList name) = none := by
    rw [lookup_eq_none_iff, lookup_eq_none_iff, around.names]
  cases found : v.names.lookup (String.ofList name) with
  | some => exact .of_fails .faultWith
  | none =>
    rw [known.mp found]
    exact .of_run rfl rfl rfl ⟨⟨after.alike.rest, around.ignoreSpace, around.captures,
      congrArg (List.cons _) around.names, around.opened, around.classes⟩, Nat.le_refl _, Nat.le_refl _⟩

theorem nextCapture_simulates (alike : s.Alike s') : Simulates 0 s s' nextCapture nextCapture Same := by
  have around := alike.around
  exact .of_run rfl rfl (congrArg (· + 1) around.captures) ⟨⟨alike.rest, around.ignoreSpace,
    congrArg (· + 1) around.captures, around.names, around.opened, around.classes⟩, Nat.le_refl _, Nat.le_refl _⟩

theorem beginGroup_simulates {q q' : Sequence} (before : q.Refines q') {kind : GroupKind} {ignoreSpace : Bool}
    (alike : s.Alike s') :
    Simulates 0 s s' (beginGroup q x kind ignoreSpace) (beginGroup q' x' kind ignoreSpace) SameSequence := by
  have around := alike.around
  have opened : List.Forall₂ Open.Alike (.group q x kind s.ignoreSpace :: s.opened)
      (.group q' x' kind s'.ignoreSpace :: s'.opened) := by
    rw [around.ignoreSpace]
    exact .cons (.group before) around.opened
  exact .of_run rfl rfl .nil (alike.follows ((around.withOpened opened).withSpace ignoreSpace) rfl rfl)

/-- The part of `readOpening` that reads flags. -/
def openFlags (q : Sequence) (x inner : Extent) (ignoreSpace : Bool) : Reader Sequence := do
  let items := (← readFlags [] ((← rest).length + 1)).map Prod.fst
  let ignoreSpace := (flagState .ignoreWhitespace items).getD ignoreSpace
  let last ← peek
  bump
  if last = some ')' then
    if items.isEmpty then fault .nothingToRepeat inner
    modify fun s => { s with ignoreSpace := ignoreSpace }
    return q.push (.flags (← extentFrom x.start) items)
  else beginGroup q x (.plain items) ignoreSpace

theorem openFlags_simulates {q q' : Sequence} (refines : q.Refines q') {inner inner' : Extent} {ignoreSpace : Bool}
    (alike : s.Alike s') :
    Simulates 0 s s' (openFlags q x inner ignoreSpace) (openFlags q' x' inner' ignoreSpace) SameSequence := by
  unfold openFlags
  refine .reads rfl rfl (.bind (readFlags_simulates rfl alike (Nat.lt_succ_self _) (Nat.lt_succ_self _)) ?_)
  rintro items items' t t' ⟨same, c, self, first⟩ after
  have before := after.alike.before self first
  dsimp only
  rw [← same]
  refine .look ?_
  rw [before.head?.1, before.head?.2]
  refine (Simulates.step (bump_simulates before) fun {_ _ v v'} _ after => ?_).weaken
  split
  · split
    · exact .of_fails (.first .fault)
    · exact .of_run rfl rfl (refines.push Tree.refines_flags)
        (after.alike.follows (after.alike.around.withSpace _) rfl rfl)
  · exact beginGroup_simulates refines after.alike

/-- The part of `readOpening` for a group that has a name, or none. -/
def openGroup (q : Sequence) (x inner : Extent) (ignoreSpace named : Bool) : Reader Sequence := do
  if named then
    let index ← nextCapture
    let name ← readGroupName
    beginGroup q x (.capture index (some name)) ignoreSpace
  else if ← bumpIf ['?'] then
    if ← atEnd then fault .openGroup x
    openFlags q x inner ignoreSpace
  else
    let index ← nextCapture
    beginGroup q x (.capture index none) ignoreSpace

theorem openGroup_simulates {q q' : Sequence} (refines : q.Refines q') (x x' inner inner' : Extent)
    (ignoreSpace named : Bool) (alike : s.Alike s') :
    Simulates 0 s s' (openGroup q x inner ignoreSpace named) (openGroup q' x' inner' ignoreSpace named)
      SameSequence := by
  cases named with
  | true =>
    refine .bind (nextCapture_simulates alike) ?_
    rintro index _ t t' rfl after
    refine .bind (readGroupName_simulates after.alike) ?_
    rintro name _ t t' rfl after
    exact beginGroup_simulates refines after.alike
  | false =>
    refine .bind (bumpIf_simulates alike (by decide)) ?_
    rintro found _ t t' rfl after
    cases found with
    | true => exact .atEnd after.alike (.first .fault) fun _ => openFlags_simulates refines after.alike
    | false =>
      refine .bind (nextCapture_simulates after.alike) ?_
      rintro index _ t t' rfl after
      exact beginGroup_simulates refines after.alike

theorem noSlash_of_look {look : List Char}
    (inside : look ∈ [['?', '='], ['?', '!'], ['?', '<', '='], ['?', '<', '!']]) :
    look.all (NoSlash ·) = true := by
  revert look
  decide

theorem readOpening_simulates {q q' : Sequence} (refines : q.Refines q') (opening : Before '(' s s') :
    Simulates 1 s s' (readOpening q) (readOpening q') SameSequence := by
  unfold readOpening
  refine .hereChar fun y y' => .step (bump_simulates opening) fun _ after => ?_
  refine .bind (skipBlanks_simulates after.alike) fun _ after => ?_
  refine .bind (.forIn (fun look inside _ _ alike => ?_) after.alike) fun {_ _ t t'} _ after => ?_
  · refine .bind (bumpIf_simulates alike (noSlash_of_look inside)) ?_
    rintro found _ t t' rfl after
    cases found with
    | true => exact .of_fails (.after fun _ => .first .fault)
    | false => exact .pure after.alike ⟨rfl, rfl⟩
  refine .reads rfl rfl (.getState ?_)
  rw [after.alike.around.ignoreSpace]
  refine .bind (bumpIf_simulates after.alike (by decide)) ?_
  rintro found _ v v' rfl after
  have opens (named : Bool) {w w' : ReaderState} (alike : w.Alike w') :=
    openGroup_simulates refines y y' t.position.here t'.position.here t'.ignoreSpace named alike
  cases found with
  | true => exact opens true after.alike
  | false =>
    refine .bind (bumpIf_simulates after.alike (by decide)) ?_
    rintro named _ v v' rfl after
    exact opens named after.alike

/-! ## Branches and ends of groups -/

/-- The state with another branch done. -/
def afterBar (q : Sequence) (s : ReaderState) : ReaderState :=
  let branch := q.close s.position
  { s with
    opened := match s.opened with
      | .branches start done :: outer => .branches start (branch :: done) :: outer
      | opened => .branches q.start [branch] :: opened }

theorem readBar_run (q : Sequence) (s : ReaderState) :
    readBar q s = (do bump; newSequence : Reader Sequence) (afterBar q s) := by
  obtain ⟨rest, position, ignoreSpace, captures, names, opened, classes⟩ := s
  cases opened with
  | nil => rfl
  | cons first outer => cases first <;> rfl

theorem readBar_simulates {q q' : Sequence} (refines : q.Refines q') (bar : Before '|' s s') :
    Simulates 1 s s' (readBar q) (readBar q') SameSequence := by
  have around := bar.around
  have opened : List.Forall₂ Open.Alike (afterBar q s).opened (afterBar q' s').opened := by
    have branch := refines.close s.position s'.position
    have same := around.opened
    unfold afterBar
    generalize s.opened = opened at same
    generalize s'.opened = opened' at same
    cases same with
    | nil => exact .cons (.branches (.cons branch .nil)) .nil
    | cons first outer =>
      cases first with
      | group before => exact .cons (.branches (.cons branch .nil)) (.cons (.group before) outer)
      | branches done => exact .cons (.branches (.cons branch done)) outer
  have bar : Before '|' (afterBar q s) (afterBar q' s') := bar.withAround (around.withOpened opened) rfl rfl
  refine .of_eq (readBar_run q s) (readBar_run q' s') (Nat.le_refl _) (Nat.le_refl _) ?_
  exact .step (bump_simulates bar) fun _ after => .of_run rfl rfl .nil (.refl after.alike)

theorem closeBranches_simulates {last last' : Tree} {stop stop' : Position} (refines : last.Refines last')
    (alike : s.Alike s') :
    Simulates 0 s s' (closeBranches last stop) (closeBranches last' stop')
      fun t t' u => t.Refines t' ∧ u.rest = s.rest := by
  refine .getState ?_
  have around := alike.around
  generalize opened : s.opened = outer
  generalize opened' : s'.opened = outer'
  have same := around.opened
  rw [opened, opened'] at same
  cases same with
  | nil => exact .pure alike ⟨refines, rfl⟩
  | cons first outer =>
    cases first with
    | group => exact .pure alike ⟨refines, rfl⟩
    | branches done =>
      exact .of_run rfl rfl ⟨Tree.refines_alternation (List.forall₂_reverse_iff.mpr (.cons refines done)), rfl⟩
        (alike.follows (around.withOpened outer) rfl rfl)

theorem readClosing_simulates {q q' : Sequence} (refines : q.Refines q') (closing : Before ')' s s') :
    Simulates 1 s s' (readClosing q) (readClosing q') SameSequence := by
  unfold readClosing
  refine .hereChar fun y y' => ?_
  refine .bind (closeBranches_simulates (refines.close y.start y'.start) (closing.alike (by decide))) ?_
  rintro sub sub' t t' ⟨inner, left⟩ after
  have closing := after.alike.before (c := ')') (by decide) (left ▸ closing.head?.1)
  refine .getState ?_
  have around := after.alike.around
  have same := around.opened
  generalize t.opened = opened at same
  generalize t'.opened = opened' at same
  cases same with
  | nil => exact .of_fails .fault
  | cons first outer =>
    cases first with
    | branches => exact .of_fails .fault
    | @group _ _ _ _ _ ignoredSpace before =>
      have closing := closing.withAround ((around.withOpened outer).withSpace ignoredSpace) rfl rfl
      exact .sets rfl rfl (.step (bump_simulates closing) fun _ after =>
        .of_run rfl rfl (before.push (Tree.refines_group inner)) (.refl after.alike))

theorem closeAll_simulates {q q' : Sequence} (refines : q.Refines q') (alike : s.Alike s') :
    Simulates 0 s s' (closeAll q) (closeAll q') SameTree := by
  unfold closeAll
  refine .reads rfl rfl (.bind (closeBranches_simulates (refines.close _ _) alike) ?_)
  rintro tree tree' t t' ⟨refines, -⟩ after
  refine .getState ?_
  have same := after.alike.around.opened
  generalize t.opened = opened at same
  generalize t'.opened = opened' at same
  cases same with
  | nil => exact .pure after.alike refines
  | cons first outer =>
    cases first with
    | branches => exact .pure after.alike refines
    | group => exact .of_fails .fault

/-! ## Repetitions -/

theorem repeated_eq_pure {part : Tree} (counted : part.Repeatable) (start : Position) (before : List Tree) :
    repeated ⟨start, part :: before⟩ = pure (part, ⟨start, before⟩) := by
  cases part <;> first | rfl | cases counted

theorem fails_repeated {part : Tree} (other : ¬ part.Repeatable) (start : Position) (before : List Tree) :
    Fails (repeated ⟨start, part :: before⟩) := by
  cases part <;> first | exact .after fun _ => .fault | exact absurd trivial other

/-- There is nothing to repeat, or a part in both sequences. -/
theorem repeated_refines {q q' : Sequence} (refines : q.Refines q') :
    Fails (repeated q) ∨ ∃ part part' before before', repeated q = pure (part, before) ∧
      repeated q' = pure (part', before') ∧ part.Refines part' ∧ before.Refines before' := by
  obtain ⟨start, parts⟩ := q
  obtain ⟨start', parts'⟩ := q'
  cases refines with
  | nil => exact .inl (.after fun _ => .fault)
  | @cons part part' before before' first others =>
    by_cases counted : part.Repeatable
    · exact .inr ⟨_, _, _, _, repeated_eq_pure counted _ _, repeated_eq_pure (first.repeatable counted) _ _,
        first, others⟩
    · exact .inl (fails_repeated counted _ _)

theorem readGreed_simulates (alike : s.Alike s') : Simulates 0 s s' readGreed readGreed Same := by
  unfold readGreed
  refine .ifNext alike (by decide) (fun before => ?_) fun _ => .pure alike rfl
  exact (Simulates.step (bump_simulates before) fun _ after => .pure after.alike rfl).weaken

theorem pushRepetition_simulates {q q' : Sequence} (refines : q.Refines q') {part part' : Tree}
    (inner : part.Refines part') {counts : Counts} {greedy : Bool} (alike : s.Alike s') :
    Simulates 0 s s' (pushRepetition q part counts greedy) (pushRepetition q' part' counts greedy) SameSequence :=
  .of_run rfl rfl (refines.push (Tree.refines_repetition inner)) (.refl alike)

theorem readRepetition_simulates {q q' : Sequence} (refines : q.Refines q') {counts : Counts}
    (operator : Before c s s') :
    Simulates 1 s s' (readRepetition q counts) (readRepetition q' counts) SameSequence := by
  rcases repeated_refines refines with fails | ⟨part, part', before, before', found, found', inner, refines⟩
  · exact .of_fails (.first fails)
  rw [readRepetition, readRepetition, found, found', pure_bind, pure_bind]
  refine .step (bump_simulates operator) fun _ after => .bind (readGreed_simulates after.alike) ?_
  rintro greedy _ t t' rfl after
  exact pushRepetition_simulates refines inner after.alike

/-- A decimal of 32 bits is read alike. -/
def SameCount (n n' : Except Error UInt32) (_ : ReaderState) : Prop := ∀ m, n = .ok m → n' = .ok m

theorem readCount_simulates (alike : s.Alike s') : Simulates 0 s s' readCount readCount SameCount := by
  unfold readCount
  refine .reads rfl rfl (.bind (skipWhite_simulates bump_simulates alike (Nat.le_refl _) (Nat.le_refl _)) ?_)
  intro _ _ t t' _ after
  have digit : ∀ c : Char, c.isDigit = true → NoSlash c := by
    rintro c digit
    constructor <;> rintro rfl <;> cases digit
  refine .reads rfl rfl (.bind (takeAll_simulates digit after.alike) ?_)
  rintro ds _ v v' rfl after
  refine .reads rfl rfl (.reads rfl rfl ?_)
  refine .bind (skipWhite_simulates (fun before => ?_) after.alike (Nat.le_refl _) (Nat.le_refl _)) ?_
  · exact .step (bumpAndSkip_simulates before) fun _ after => .pure after.alike trivial
  intro _ _ w w' _ after
  dsimp only
  split
  · exact .pure after.alike nofun
  split
  · exact .pure after.alike fun _ => id
  · exact .pure after.alike nofun

theorem orThrow_simulates {n n' : Except Error UInt32} (same : SameCount n n' s) (alike : s.Alike s') :
    Simulates 0 s s' (orThrow n) (orThrow n') Same := by
  cases n with
  | error e => exact .of_fails nofun
  | ok m =>
    rw [same m rfl]
    exact .pure alike rfl

/-- The part of `readCounted` behind the counts. -/
def closeCounts (q : Sequence) (part : Tree) (start : Position) (bounds : UInt32 × Option UInt32) :
    Reader Sequence := do
  if (← peek) ≠ some '}' then fault .openCount (← extentFrom start)
  let more ← bumpAndSkip
  let greedy ← if more then readGreed else pure true
  match Counts.of? bounds.1 bounds.2 with
  | some counts => pushRepetition q part counts greedy
  | none => fault .reversedCounts (← extentFrom start)

theorem closeCounts_simulates {q q' : Sequence} (refines : q.Refines q') {part part' : Tree}
    (inner : part.Refines part') (start start' : Position) (bounds : UInt32 × Option UInt32)
    (alike : s.Alike s') :
    Simulates 0 s s' (closeCounts q part start bounds) (closeCounts q' part' start' bounds) SameSequence := by
  unfold closeCounts
  refine .unlessNext alike (by decide) (.after fun _ => .first .fault) fun before => ?_
  refine (Simulates.step (bumpAndSkip_simulates before) ?_).weaken
  rintro more _ t t' ⟨rfl, -⟩ after
  have finish (greedy : Bool) {v v' : ReaderState} (alike : v.Alike v') :
      Simulates 0 v v'
        (match Counts.of? bounds.1 bounds.2 with
          | some counts => pushRepetition q part counts greedy
          | none => do fault .reversedCounts (← extentFrom start))
        (match Counts.of? bounds.1 bounds.2 with
          | some counts => pushRepetition q' part' counts greedy
          | none => do fault .reversedCounts (← extentFrom start')) SameSequence := by
    cases Counts.of? bounds.1 bounds.2 with
    | none => exact .of_fails (.after fun _ => .fault)
    | some counts => exact pushRepetition_simulates refines inner alike
  cases more with
  | true =>
    refine .bind (readGreed_simulates after.alike) ?_
    rintro greedy _ v v' rfl after
    exact finish greedy after.alike
  | false => exact finish true after.alike

theorem readCounted_simulates {q q' : Sequence} (refines : q.Refines q') (opening : Before '{' s s') :
    Simulates 1 s s' (readCounted q) (readCounted q') SameSequence := by
  unfold readCounted
  refine .reads rfl rfl ?_
  rcases repeated_refines refines with fails | ⟨part, part', before, before', found, found', inner, refines⟩
  · exact .of_fails (.first fails)
  rw [found, found', pure_bind, pure_bind]
  refine bumpOr_simulates opening (.after fun _ => .first .fault) fun after => ?_
  refine .bind (readCount_simulates after.alike) fun {first first' t t'} same after => ?_
  refine .atEnd after.alike (.after fun _ => .first .fault) fun _ => ?_
  have close (bounds : UInt32 × Option UInt32) {w w' : ReaderState} (alike : w.Alike w') :=
    closeCounts_simulates refines inner s.position s'.position bounds alike
  refine .look ?_
  have here := after.alike.rest.head?_eq_some_iff (c := ',') (by decide)
  by_cases comma : t.rest.head? = some ','
  · rw [if_neg (not_not_intro comma), if_neg (not_not_intro (here.mp comma))]
    refine (bumpOr_simulates (after.alike.before (by decide) comma) (.after fun _ => .first .fault)
      fun after => ?_).weaken
    refine .bind (orThrow_simulates same after.alike) ?_
    rintro low _ v v' rfl after
    refine .look ?_
    have here := after.alike.rest.head?_eq_some_iff (c := '}') (by decide)
    by_cases brace : v.rest.head? = some '}'
    · rw [if_neg (not_not_intro brace), if_neg (not_not_intro (here.mp brace))]
      exact close (low, none) after.alike
    · rw [if_pos brace, if_pos (mt here.mpr brace)]
      refine .bind (readCount_simulates after.alike) fun same after => ?_
      refine .bind (orThrow_simulates same after.alike) ?_
      rintro high _ w w' rfl after
      exact close (low, some high) after.alike
  · rw [if_pos comma, if_pos (mt here.mpr comma)]
    refine .bind (orThrow_simulates same after.alike) ?_
    rintro n _ v v' rfl after
    exact close (n, some n) after.alike

/-! ## Whole patterns -/

theorem readPrimitive_simulates (alike : s.Alike s') (some : s.rest ≠ []) :
    Simulates 1 s s' readPrimitive readPrimitive SameTree := by
  have tree {y y' : Reader Primitive}
      (read : Simulates 1 s s' y y' SamePrimitive) :
      Simulates 1 s s' (do return (← y).toTree) (do return (← y').toTree) SameTree :=
    .step read fun refines after => .pure after.alike refines.toTree
  unfold readPrimitive
  refine .hereChar fun x x' => ?_
  refine .peek alike (fun empty _ => absurd empty some) (fun c self before => ?_) fun c other first first' => ?_
  · have steps {t t' : Tree} (refines : t.Refines t') :
        Simulates 1 s s' (do bump; return t) (do bump; return t') SameTree :=
      .step (bump_simulates before) fun _ after => .pure after.alike refines
    split
    · next backslash => exact absurd (Option.some.inj backslash) self.1
    · exact steps Tree.refines_dot
    · exact steps Tree.refines_assertion
    · exact steps Tree.refines_assertion
    · next same =>
      cases same
      exact steps (Tree.refines_literal ⟨rfl, rfl⟩)
    · next none => cases none
  · rcases readEscape_simulates_either alike first first' with ⟨rfl, escape⟩ | ⟨rfl, slash⟩
    · exact tree escape
    · exact tree (slash x')

theorem readParts_simulates {q q' : Sequence} {n n' : Nat} (refines : q.Refines q') (alike : s.Alike s')
    (fuel : s.rest.length < n) (fuel' : s'.rest.length < n') :
    Simulates 0 s s' (readParts q n) (readParts q' n') SameTree := by
  refine Simulates.loop (y := readParts) (z := readParts) (P := fun q q' s s' => q.Refines q' ∧ s.Alike s') ?_
    ⟨refines, alike⟩ fuel fuel'
  rintro q q' n n' s s' ⟨refines, alike⟩ next
  rw [readParts, readParts]
  refine .bind (skipBlanks_simulates alike) fun {_ _ t t'} _ after => ?_
  replace next {u u' : Sequence} {v v' : ReaderState} (refines : u.Refines u') (after' : Follows 1 t t' v v') :
      Simulates 0 v v' (readParts u n) (readParts u' n') SameTree :=
    next ⟨refines, after'.alike⟩ (Nat.lt_of_lt_of_le after'.taken after.taken)
      (Nat.lt_of_lt_of_le after'.taken' after.taken')
  have turn {y y' : Reader Sequence} (read : Simulates 1 t t' y y' SameSequence) :
      Simulates 0 t t' (do readParts (← y) n) (do readParts (← y') n') SameTree :=
    (Simulates.step read next).weaken
  have part {y y' : Reader Tree} (read : Simulates 1 t t' y y' SameTree) :
      Simulates 0 t t' (do readParts (q.push (← y)) n) (do readParts (q'.push (← y')) n')
        SameTree :=
    (Simulates.step read fun last => next (refines.push last)).weaken
  refine .peek after.alike (fun _ _ => closeAll_simulates refines after.alike) (fun c self before => ?_)
    fun c other first first' => ?_
  · dsimp only
    split
    · exact turn (readOpening_simulates refines before)
    · exact turn (readClosing_simulates refines before)
    · exact turn (readBar_simulates refines before)
    · exact part (readClass_simulates after.alike)
    · exact turn (readRepetition_simulates refines before)
    · exact turn (readRepetition_simulates refines before)
    · exact turn (readRepetition_simulates refines before)
    · exact turn (readCounted_simulates refines before)
    · exact part (readPrimitive_simulates after.alike (List.ne_nil_of_length_pos before.length_pos.1))
  · have some : t.rest ≠ [] := by
      rintro empty
      rw [empty] at first
      cases first
    have item := part (readPrimitive_simulates after.alike some)
    rcases eq_or_eq_of_not_noSlash other with rfl | rfl <;> exact item

/-- Where a tree is read from the first text, a tree that refines it is read from the second one. -/
theorem parse_again {cs cs' : List Char} (h : Unescapes cs cs') {tree : Tree} (read : parse cs = .ok tree) :
    ∃ tree', parse cs' = .ok tree' ∧ tree.Refines tree' := by
  obtain ⟨⟨tree, t⟩, ran, checked⟩ := (bind_eq_ok_iff ..).mp read
  obtain ⟨_, fine, same⟩ := (bind_eq_ok_iff ..).mp checked
  cases same
  have alike : Alike ⟨cs, .start, false, 0, [], [], []⟩ ⟨cs', .start, false, 0, [], [], []⟩ :=
    ⟨h, rfl, rfl, rfl, .nil, .nil⟩
  have empty : Sequence.Refines ⟨.start, []⟩ ⟨.start, []⟩ := List.Forall₂.nil
  obtain ⟨tree', t', ran', refines, -⟩ :=
    readParts_simulates empty alike (Nat.lt_succ_self _) (Nat.lt_succ_self _) tree t ran
  exact ⟨tree', (bind_eq_ok_iff ..).mpr ⟨_, ran', (bind_eq_ok_iff ..).mpr ⟨_, refines.depth fine, rfl⟩⟩, refines⟩

/-- Where the first text compiles, the second one compiles to the same expression. -/
theorem compile_again {cs cs' : List Char} (h : Unescapes cs cs') {e : Expr} (made : compile cs = .ok e) :
    compile cs' = .ok e := by
  obtain ⟨tree, read, meant⟩ := (bind_eq_ok_iff ..).mp made
  obtain ⟨tree', read', refines⟩ := parse_again h read
  obtain ⟨r, expr, same⟩ := (bind_eq_ok_iff ..).mp meant
  exact (bind_eq_ok_iff ..).mpr ⟨tree', read', (bind_eq_ok_iff ..).mpr ⟨r, refines.toExpr expr, same⟩⟩

end MockSchema.Pattern
