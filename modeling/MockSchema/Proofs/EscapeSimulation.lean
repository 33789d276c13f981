import MockSchema.Proofs.PropertyNames
import MockSchema.Proofs.ReaderSimulation

/-!
# Reading escapes in two texts

An escape other than that of a slash is read alike in both texts.
-/

namespace MockSchema.Pattern

open Reader ReaderState

variable {s s' : ReaderState} {c : Char} {start start' : Position}

/-- Primitives that stand for the same, wherever the first one stands for anything. -/
inductive Primitive.Refines : Primitive → Primitive → Prop
  | literal {l l'} (same : l.Same l') : Refines (.literal l) (.literal l')
  | assertion {x x' kind} : Refines (.assertion x kind) (.assertion x' kind)
  | dot {x x'} : Refines (.dot x) (.dot x')
  | property {x x' query query' negated} (same : ∀ s, query.resolve = .ok s → query' = query) :
      Refines (.property x query negated) (.property x' query' negated)
  | shorthand {x x' kind negated} : Refines (.shorthand x kind negated) (.shorthand x' kind negated)

theorem Primitive.Refines.toTree {p p' : Primitive} (refines : p.Refines p') : p.toTree.Refines p'.toTree := by
  cases refines with
  | literal same => exact Tree.refines_literal same
  | assertion => exact Tree.refines_assertion
  | dot => exact Tree.refines_dot
  | property same => exact Tree.refines_property same
  | shorthand => exact Tree.refines_shorthand

/-- Primitives, the second of which refines the first one. -/
def SamePrimitive (p p' : Primitive) (_ : ReaderState) : Prop := p.Refines p'

theorem noSlash_of_isHexDigit (digit : isHexDigit c = true) : NoSlash c := by
  constructor <;> rintro rfl <;> cases digit

/-- Literals of the same character, wherever they stand. -/
def SameLiteral (l l' : Literal) (_ : ReaderState) : Prop := l.Same l'

/-- Digits, the last of which is still to be stepped over. -/
def DigitsBefore (ds ds' : List Char) (t : ReaderState) : Prop :=
  ds = ds' ∧ ∃ c, isHexDigit c = true ∧ t.rest.head? = some c

/-- The first digit comes next, the others behind it. -/
theorem hexDigits_first {n : Nat}
    (others : ∀ {c s s'}, Before c s s' → isHexDigit c = true →
      Simulates 0 s s' (hexDigits false n) (hexDigits false n) DigitsBefore)
    (alike : s.Alike s') : Simulates 0 s s' (hexDigits true (n + 1)) (hexDigits true (n + 1)) DigitsBefore := by
  rw [hexDigits]
  simp only [Bool.not_true, Bool.false_eq_true, if_false]
  refine .peek alike (fun _ _ => .of_fails (.after fun _ => .fault)) (fun c _ before => ?_) (fun c other _ _ => ?_)
  · dsimp only
    by_cases digit : isHexDigit c = true
    · simp only [digit, Bool.not_true, Bool.false_eq_true, if_false]
      refine .bind (others before digit) fun same after => .pure after.alike ?_
      exact ⟨congrArg (List.cons c) same.1, same.2⟩
    · simp only [digit, Bool.not_false, if_true]
      exact .of_fails (.after fun _ => .first .fault)
  · have stop : isHexDigit '\\' = false := by decide
    simp only [stop, Bool.not_false, if_true]
    exact .of_fails (.after fun _ => .first .fault)

theorem hexDigits_others (n : Nat) :
    ∀ {c s s'}, Before c s s' → isHexDigit c = true →
      Simulates 0 s s' (hexDigits false n) (hexDigits false n) DigitsBefore := by
  induction n with
  | zero =>
    intro c s s' before digit
    exact .pure (before.alike (noSlash_of_isHexDigit digit)) ⟨rfl, c, digit, before.head?.1⟩
  | succ n ih =>
    intro c s s' before digit
    have more : hexDigits false (n + 1) = (bumpAndSkip >>= fun more =>
        if !more then here >>= fun x => fault .cutEscape x >>= fun _ : Unit => hexDigits true (n + 1)
        else hexDigits true (n + 1)) := by
      rw [hexDigits]
      simp only [Bool.not_false, if_true]
      rw [hexDigits]
      rfl
    rw [more]
    exact (bumpOr_simulates before (.after fun _ => .first .fault) fun after => hexDigits_first ih after.alike).weaken

theorem readHexFixed_simulates (alike : s.Alike s') (n : Nat) :
    Simulates 0 s s' (readHexFixed start (n + 1)) (readHexFixed start' (n + 1)) SameLiteral := by
  unfold readHexFixed
  refine .reads rfl rfl (.bind (hexDigits_first (hexDigits_others n) alike) ?_)
  rintro ds _ t t' ⟨rfl, c, digit, first⟩ after
  have before := after.alike.before (noSlash_of_isHexDigit digit) first
  refine (Simulates.step (bumpAndSkip_simulates before) fun _ after => ?_).weaken
  cases charOfHex? ds with
  | none => exact .of_fails (.after fun _ => .fault)
  | some d => exact .reads rfl rfl (.pure after.alike ⟨rfl, rfl⟩)

/-- The results are equal, and the closing brace comes next if anything does. -/
def UpToBrace (ds ds' : List Char) (t : ReaderState) : Prop :=
  ds = ds' ∧ (t.rest ≠ [] → t.rest.head? = some '}')

theorem hexUntilBrace_simulates {n n' : Nat} (before : Before c s s') (fuel : s.rest.length ≤ n)
    (fuel' : s'.rest.length ≤ n') : Simulates 0 s s' (hexUntilBrace n) (hexUntilBrace n') UpToBrace := by
  refine Simulates.loopWhile (y := fun _ : Unit => hexUntilBrace) (z := fun _ : Unit => hexUntilBrace)
    (P := fun _ _ s s' => ∃ c, Before c s s') (i := ()) (j := ()) ?_ ?_ ⟨c, before⟩ fuel fuel'
  · rintro _ _ n n' s s' ⟨c, before⟩ empty
    have some := before.length_pos
    rcases empty with empty | empty <;> simp [empty] at some
  · rintro _ _ n n' s s' ⟨c, before⟩ next
    rw [hexUntilBrace, hexUntilBrace]
    refine (Simulates.step (bumpAndSkip_simulates before) ?_).weaken
    rintro more _ t t' ⟨rfl, goesOn⟩ after
    cases more with
    | false => exact .pure after.alike ⟨rfl, fun some => absurd (goesOn.mpr some) (by decide)⟩
    | true =>
      refine .peek after.alike (fun empty _ => absurd empty (goesOn.mp rfl)) (fun d self before => ?_)
        fun d _ _ _ => ?_
      · split
        · next brace =>
          cases brace
          exact .pure after.alike ⟨rfl, fun _ => before.head?.1⟩
        · next e other some =>
          cases some
          by_cases digit : isHexDigit d = true
          · simp only [digit]
            refine .bind (next (i := ()) (j := ()) ⟨d, before⟩ after.taken after.taken') fun same after =>
              .pure after.alike ⟨congrArg (List.cons d) same.1, same.2⟩
          · simp only [digit]
            exact .of_fails (.after fun _ => .first .fault)
        · next none => cases none
      · exact .of_fails (.after fun _ => .first .fault)

theorem readHexBraced_simulates (before : Before '{' s s') :
    Simulates 0 s s' (readHexBraced start) (readHexBraced start') SameLiteral := by
  unfold readHexBraced
  refine .reads rfl rfl (.hereChar fun _ _ => .reads rfl rfl
    (.bind (hexUntilBrace_simulates before (Nat.le_refl _) (Nat.le_refl _)) ?_))
  rintro ds _ t t' ⟨rfl, upTo⟩ after
  refine .atEnd after.alike (.after fun _ => .first .fault) fun some => ?_
  have before := after.alike.before (by decide) (upTo some)
  refine .reads rfl rfl ((Simulates.step (bumpAndSkip_simulates before) fun _ after => ?_).weaken)
  cases ds with
  | nil => exact .of_fails (.after fun _ => .first .fault)
  | cons d ds =>
    cases charOfHex? (d :: ds) with
    | none => exact .of_fails .fault
    | some c => exact .reads rfl rfl (.pure after.alike ⟨rfl, rfl⟩)

theorem readHex_simulates (before : Before c s s') :
    Simulates 1 s s' (readHex start c) (readHex start' c) SameLiteral := by
  unfold readHex
  refine bumpOr_simulates before (.after fun _ => .first .fault) fun after => ?_
  have digits : ∃ n, (if c = 'x' then 2 else if c = 'u' then 4 else 8) = n + 1 := by
    split_ifs <;> exact ⟨_, rfl⟩
  obtain ⟨n, digits⟩ := digits
  rw [digits]
  exact .ifNext after.alike (by decide) readHexBraced_simulates fun _ => readHexFixed_simulates after.alike n

/-! ## Properties -/

/-- Behind blanks in an escape comes the rest of it, or what follows it. -/
theorem skipped_before (before : Before c s s') :
    (skipped s).Alike (skipped s') ∨ Before c (skipped s) (skipped s') := by
  obtain ⟨r, r', written, written', rest⟩ := before.rest
  have same := before.around.ignoreSpace
  unfold skipped
  by_cases ignored : s.ignoreSpace = true
  · rw [if_pos ignored, if_pos (same ▸ ignored), written, written']
    by_cases blank : Unicode.isWhiteSpace c = true
    · simp only [blanksEnd, blank]
      exact .inl ⟨unescapes_blanksEnd rest .., before.around.moved⟩
    by_cases mark : c = '#'
    · simp only [blanksEnd, mark]
      exact .inl ⟨unescapes_blanksEnd rest .., before.around.moved⟩
    · simp only [blanksEnd, blank, mark]
      exact .inr ⟨⟨r, r', rfl, rfl, rest⟩, before.around.moved⟩
  · rw [if_neg ignored, if_neg (same ▸ ignored)]
    exact .inr before

/-- The rest of a turn of `untilBrace`. -/
def lookForBrace (n : Nat) : Reader (List Char) := do
  match ← peek with
  | some '}' => return []
  | some c => return c :: (← untilBrace n)
  | none => return []

theorem untilBrace_run {r : List Char} (written : s.rest = c :: r) (n : Nat) :
    untilBrace (n + 1) s = lookForBrace n (bumped s c r) := by
  have turn : untilBrace (n + 1) = (bumpAndSkip >>= fun more =>
      if !more then pure [] else lookForBrace n) := by
    rw [untilBrace]
    rfl
  rw [turn]
  change (bumpAndSkip s >>= fun p => (if !p.1 then pure [] else lookForBrace n : Reader _) p.2) = _
  rw [bumpAndSkip_run written]
  obtain ⟨rest, position, ignoreSpace, captures, names, opened, classes⟩ := bumped s c r
  cases rest <;> rfl

/-- Texts up to a closing brace, which comes next if anything does. -/
def StopsAtBrace (_ _ : List Char) (t : ReaderState) : Prop := t.rest ≠ [] → t.rest.head? = some '}'

/-- The texts are the same unless there is a backslash in the first one. -/
def NamesUpToBrace (text text' : List Char) (t : ReaderState) : Prop :=
  ('\\' ∈ text ∨ text = text') ∧ StopsAtBrace text text' t

/-- With the given fuel for the first text, what is left of a name is read alike behind a character that both texts
share, and read to its end from an escape on. -/
def ReadsNames (n : Nat) : Prop :=
  ∀ {n' : Nat} {s s' : ReaderState}, s.rest.length ≤ n → s'.rest.length ≤ n' →
    (∀ {c}, Before c s s' → Simulates 0 s s' (untilBrace n) (untilBrace n') NamesUpToBrace) ∧
      (s.Alike s' → s.rest.head? = some '\\' →
        Simulates 0 s s' (untilBrace n) (untilBrace n') StopsAtBrace)

theorem lookForBrace_simulates {n n' : Nat} (ih : ReadsNames n) (ahead : s.Alike s' ∨ ∃ c, Before c s s')
    (fuel : s.rest.length ≤ n) (fuel' : s'.rest.length ≤ n') :
    Simulates 0 s s' (lookForBrace n) (lookForBrace n') NamesUpToBrace := by
  obtain ⟨names, escaped⟩ := ih fuel fuel'
  have shared {c : Char} (before : Before c s s') :
      Simulates 0 s s'
        (match some c with
          | some '}' => pure []
          | some c => do return c :: (← untilBrace n)
          | none => pure [])
        (match some c with
          | some '}' => pure []
          | some c => do return c :: (← untilBrace n')
          | none => pure [])
        NamesUpToBrace := by
    by_cases brace : c = '}'
    · subst brace
      exact .pure (before.alike (by decide)) ⟨.inr rfl, fun _ => before.head?.1⟩
    · split
      · next same => exact absurd (Option.some.inj same) brace
      · next d _ same =>
        cases same
        refine .bind (names before) fun related after => .pure after.alike ⟨?_, related.2⟩
        exact related.1.imp (List.mem_cons_of_mem c) (congrArg (List.cons c))
      · next none => cases none
  rcases ahead with alike | ⟨c, before⟩
  · refine .peek alike (fun empty _ => ?_) (fun c _ before => shared before) fun c other first _ => ?_
    · exact .pure alike ⟨.inr rfl, fun some => absurd empty some⟩
    · have read : Simulates 0 s s' (do return '\\' :: (← untilBrace n)) (do return c :: (← untilBrace n'))
          NamesUpToBrace :=
        .bind (escaped alike first) fun stops after => .pure after.alike ⟨.inl List.mem_cons_self, stops⟩
      rcases eq_or_eq_of_not_noSlash other with rfl | rfl <;> exact read
  · refine .look ?_
    rw [before.head?.1, before.head?.2]
    exact shared before

theorem length_bumped {r : List Char} (written : s.rest = c :: r) : (bumped s c r).rest.length < s.rest.length := by
  rw [written]
  exact Nat.lt_succ_of_le (length_skipped _)

/-- By induction on the fuel of the first text, which takes two turns for an escaped slash. -/
theorem readsNames (n : Nat) : ReadsNames n := by
  induction n with
  | zero =>
    intro n' s s' fuel fuel'
    have empty := List.length_eq_zero_iff.mp (Nat.le_zero.mp fuel)
    refine ⟨fun before => ?_, fun _ first => ?_⟩
    · have some := before.length_pos.1
      rw [empty] at some
      cases some
    · rw [empty] at first
      cases first
  | succ n ih =>
    intro n' s s' fuel fuel'
    -- both texts take one turn, in which they step over one character each
    have turn {c c' : Char} {r r' : List Char} (written : s.rest = c :: r) (written' : s'.rest = c' :: r')
        (ahead : (bumped s c r).Alike (bumped s' c' r') ∨ ∃ d, Before d (bumped s c r) (bumped s' c' r')) :
        Simulates 0 s s' (untilBrace (n + 1)) (untilBrace n') NamesUpToBrace := by
      have less := length_bumped written
      have less' := length_bumped written'
      obtain ⟨m, rfl⟩ : ∃ m, n' = m + 1 := Nat.exists_eq_succ_of_ne_zero (by omega)
      exact .of_eq (untilBrace_run written n) (untilBrace_run written' m) (Nat.le_of_lt less) (Nat.le_of_lt less')
        (lookForBrace_simulates ih ahead (by omega) (by omega))
    refine ⟨fun before => ?_, fun alike first => ?_⟩
    · obtain ⟨r, r', written, written', rest⟩ := before.rest
      exact turn written written' (.inl (skipped_alike ⟨rest, before.around.moved⟩))
    · obtain ⟨d, r, r', written, rest, ⟨written', -⟩ | ⟨written', rfl⟩⟩ := alike.escape first
      · have inside : Before d { s with rest := d :: r, position := s.position.advance '\\' }
            { s' with rest := d :: r', position := s'.position.advance '\\' } :=
          ⟨⟨r, r', rfl, rfl, rest⟩, alike.around.moved⟩
        exact (turn written written' ((skipped_before inside).imp id fun before => ⟨d, before⟩)).mono And.right
      · -- the first text takes a turn of its own
        have less := length_bumped written
        have here : (bumped s '\\' ('/' :: r)).rest = '/' :: r ∧ (bumped s '\\' ('/' :: r)).Around s' := by
          have slash := isWhiteSpace_eq_false (c := '/') (by decide)
          unfold bumped skipped
          split
          · simp only [blanksEnd, slash]
            exact ⟨rfl, alike.around.moved⟩
          · exact ⟨rfl, alike.around.moved⟩
        generalize moved : bumped s '\\' ('/' :: r) = t at here less
        have next : lookForBrace n t = (untilBrace n >>= fun text => pure ('/' :: text)) t := by
          obtain ⟨rest, position, ignoreSpace, captures, names, opened, classes⟩ := t
          cases here.1
          rfl
        have names := (ih (by omega : t.rest.length ≤ n) fuel').1 ⟨⟨r, r', here.1, written', rest⟩, here.2⟩
        intro text u ran
        rw [untilBrace_run written, moved, next] at ran
        obtain ⟨⟨text₁, u₁⟩, ran₁, same⟩ := (bind_eq_ok_iff ..).mp ran
        cases same
        obtain ⟨text', u', ran', related, after⟩ := names text₁ u ran₁
        exact ⟨text', u', ran', related.2, after.alike, Nat.le_trans after.taken (Nat.le_of_lt less), after.taken'⟩

/-- Names in which both texts agree unless there is a backslash in the first one ask for the same property, if
there is any. -/
theorem query_of_names {text text' : List Char} (names : '\\' ∈ text ∨ text = text') (a : CharSet)
    (resolved : (queryOf text).resolve = .ok a) : queryOf text' = queryOf text := by
  rcases names with inside | rfl
  · exact absurd inside (backslash_not_mem_of_resolve resolved)
  · rfl

/-- A property is read alike, unless there is a backslash in its name: then it does not exist. -/
theorem readProperty_simulates {negated : Bool} (before : Before c s s') :
    Simulates 1 s s' (readProperty start negated) (readProperty start' negated) SamePrimitive := by
  unfold readProperty
  refine bumpOr_simulates before (.after fun _ => .first .fault) fun after => ?_
  refine .peek after.alike (fun _ _ => .of_fails (.after fun _ => .fault)) (fun d self before => ?_) fun d _ _ _ => ?_
  · split
    · next brace =>
      cases brace
      refine .reads rfl rfl (.bind ((readsNames _ (Nat.le_refl _) (Nat.le_refl _)).1 before) ?_)
      rintro text text' t t' ⟨names, stops⟩ after
      refine .atEnd after.alike (.after fun _ => .first .fault) fun some => ?_
      have closing := after.alike.before (by decide) (stops some)
      refine (Simulates.step (bump_simulates closing) fun _ after => ?_).weaken
      exact .reads rfl rfl (.pure after.alike (.property (query_of_names names)))
    · next backslash =>
      cases backslash
      exact absurd rfl self.1
    · next e _ _ same =>
      cases same
      refine (Simulates.step (bumpAndSkip_simulates before) fun _ after => ?_).weaken
      exact .reads rfl rfl (.pure after.alike (.property fun _ _ => rfl))
    · next none => cases none
  · exact .of_fails (.after fun _ => .fault)

/-! ## Word boundaries -/

theorem noSlash_of_isBoundaryNameChar (named : isBoundaryNameChar c = true) : NoSlash c := by
  constructor <;> rintro rfl <;> cases named

/-- The rest of `readBoundaryName` where a name begins. -/
def nameInBraces (braceStart nameStart : Position) : Reader (Option Assertion) := do
  let name ← takeAll isBoundaryNameChar
  if (← peek) ≠ some '}' then fault .openWordPlace (← extentFrom braceStart)
  let nameEnd ← position
  bump
  match String.ofList name with
  | "start" => return some (.word .start)
  | "end" => return some (.word .stop)
  | "start-half" => return some (.word .startHalf)
  | "end-half" => return some (.word .stopHalf)
  | _ => fault .unknownWordPlace ⟨nameStart, nameEnd⟩

theorem nameInBraces_simulates (alike : s.Alike s') {nameStart nameStart' : Position} :
    Simulates 0 s s' (nameInBraces start nameStart) (nameInBraces start' nameStart') Same := by
  unfold nameInBraces
  refine .bind (takeAll_simulates (fun _ => noSlash_of_isBoundaryNameChar) alike) ?_
  rintro name _ t t' rfl after
  refine .unlessNext after.alike (by decide) (.after fun _ => .first .fault) fun before => ?_
  refine .reads rfl rfl ((Simulates.step (bump_simulates before) fun _ after => ?_).weaken)
  split
  · exact .pure after.alike rfl
  · exact .pure after.alike rfl
  · exact .pure after.alike rfl
  · exact .pure after.alike rfl
  · exact .of_fails .fault

theorem readBoundaryName_run (start : Position) {r : List Char} (written : s.rest = '{' :: r) :
    (∀ a t, (bumped s '{' r).rest = [] → readBoundaryName start s ≠ .ok (a, t)) ∧
      ((bumped s '{' r).rest ≠ [] → readBoundaryName start s =
        if (bumped s '{' r).rest.head?.any isBoundaryNameChar then
          nameInBraces s.position (bumped s '{' r).position (bumped s '{' r)
        else .ok (none, s)) := by
  generalize behind : bumped s '{' r = t
  have ran := bumpAndSkip_run written
  have here : (get : Reader ReaderState) s = .ok (s, s) := rfl
  have place : Reader.position s = .ok (s.position, s) := rfl
  rw [behind] at ran
  rw [readBoundaryName, run_bind here, run_bind place, run_bind ran]
  constructor
  · intro a u empty
    rw [empty]
    exact Fails.after (fun _ => .first .fault) t a u
  · intro some
    have goesOn : t.rest.isEmpty = false := List.isEmpty_eq_false_iff.mpr some
    have place : Reader.position t = .ok (t.position, t) := rfl
    have next : peek t = .ok (t.rest.head?, t) := rfl
    simp only [goesOn, Bool.not_false, Bool.not_true, Bool.false_eq_true, if_false]
    rw [run_bind place, run_bind next]
    by_cases named : t.rest.head?.any isBoundaryNameChar = true
    · rw [if_pos named, named]
      rfl
    · rw [if_neg named, Bool.eq_false_iff.mpr named]
      rfl

/-- Braces that hold no name are left in both texts. -/
theorem readBoundaryName_simulates (before : Before '{' s s') :
    Simulates 0 s s' (readBoundaryName start) (readBoundaryName start') Same := by
  obtain ⟨r, r', written, written', rest⟩ := before.rest
  have alike : (bumped s '{' r).Alike (bumped s' '{' r') := skipped_alike ⟨rest, before.around.moved⟩
  obtain ⟨fails, goes⟩ := readBoundaryName_run start written
  obtain ⟨-, goes'⟩ := readBoundaryName_run start' written'
  by_cases empty : (bumped s '{' r).rest = []
  · exact fun a t ran => absurd ran (fails a t empty)
  have same := alike.any_head? fun _ => noSlash_of_isBoundaryNameChar
  specialize goes empty
  specialize goes' (mt alike.rest.eq_nil_iff.mpr empty)
  by_cases named : (bumped s '{' r).rest.head?.any isBoundaryNameChar = true
  · rw [if_pos named] at goes
    rw [if_pos (same ▸ named)] at goes'
    exact .of_eq goes goes' (Nat.le_of_lt (length_bumped written)) (Nat.le_of_lt (length_bumped written'))
      (nameInBraces_simulates alike)
  · rw [if_neg named] at goes
    rw [if_neg (same ▸ named)] at goes'
    exact .of_run goes goes' rfl (.refl (before.alike (by decide)))

/-! ## Escapes -/

/-- An escape is read alike. -/
theorem readEscape_simulates {r r' : List Char} (written : s.rest = '\\' :: c :: r)
    (written' : s'.rest = '\\' :: c :: r') (rest : Unescapes r r') (around : s.Around s') :
    Simulates 1 s s' readEscape readEscape SamePrimitive := by
  unfold readEscape
  refine .reads rfl rfl (.of_eq (run_bind (bump_run written)) (run_bind (bump_run written')) (by simp [written])
    (by simp [written']) ?_)
  have before : Before c { s with rest := c :: r, position := s.position.advance '\\' }
      { s' with rest := c :: r', position := s'.position.advance '\\' } := ⟨⟨r, r', rfl, rfl, rest⟩, around.moved⟩
  refine .reads rfl rfl ?_
  dsimp only [List.head?_cons]
  split
  · exact .of_fails (.after fun _ => .fault)
  split
  · exact .step (readHex_simulates before) fun same after => .pure after.alike (.literal same)
  split
  · exact readProperty_simulates before
  refine .step (bump_simulates before) fun _ after => .reads rfl rfl ?_
  cases shorthand? c with
  | some kind => exact .pure after.alike .shorthand
  | none =>
    dsimp only
    split
    · exact .pure after.alike (.literal ⟨rfl, rfl⟩)
    cases controlChar? c with
    | some d => exact .pure after.alike (.literal ⟨rfl, rfl⟩)
    | none =>
      cases assertion? c with
      | none => exact .of_fails .fault
      | some kind =>
        dsimp only
        by_cases named : c = 'b'
        · simp only [named, true_and]
          refine .ifNext after.alike (by decide) (fun before => .bind (readBoundaryName_simulates before) ?_)
            fun _ => .pure after.alike .assertion
          rintro special _ t t' rfl after
          cases special with
          | none => exact .pure after.alike .assertion
          | some special => exact .reads rfl rfl (.pure after.alike .assertion)
        · simp only [named, false_and, if_false]
          exact .reads rfl rfl (.pure after.alike .assertion)

/-- The escape of a slash stands for a slash. -/
theorem readEscape_slash {r : List Char} (written : s.rest = '\\' :: '/' :: r) :
    ∃ x p, readEscape s = .ok (.literal ⟨x, '/', false⟩, { s with rest := r, position := p }) := by
  have place : Reader.position s = .ok (s.position, s) := rfl
  rw [readEscape, run_bind place, run_bind (bump_run written)]
  exact ⟨_, _, rfl⟩

end MockSchema.Pattern
