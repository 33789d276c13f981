import MockSchema.Proofs.TreeRefinement
import MockSchema.Proofs.Unescaping

/-!
# Reading two texts at once

The reader of patterns is run on a text and on the text with slashes for its escaped slashes. Its states are alike
if the same piece comes next, and what was read is refined (`ReaderState.Alike`). A computation simulates another
one if it succeeds wherever that one does, with a related result and states that are alike again
(`Simulates`). The number of characters that both take is counted, for loops run as long as text is left.
-/

namespace MockSchema.Pattern

/-! ## States -/

/-- Sequences part by part. -/
def Sequence.Refines (q q' : Sequence) : Prop := List.Forall₂ Tree.Refines q.parts q'.parts

inductive Open.Alike : Open → Open → Prop
  | group {before before' x x' kind ignoredSpace} (sequence : before.Refines before') :
      Alike (.group before x kind ignoredSpace) (.group before' x' kind ignoredSpace)
  | branches {start start' done done'} (all : List.Forall₂ Tree.Refines done done') :
      Alike (.branches start done) (.branches start' done')

inductive OpenClass.Alike : OpenClass → OpenClass → Prop
  | class {before before' y y' x x' negated} (items : List.Forall₂ ClassSet.Refines before before') :
      Alike (.class before y x negated) (.class before' y' x' negated)
  | operation {op left left'} (side : left.Refines left') :
      Alike (.operation op left) (.operation op left')

namespace ReaderState

/-- All but the text is alike. -/
structure Around (s s' : ReaderState) : Prop where
  ignoreSpace : s.ignoreSpace = s'.ignoreSpace
  captures : s.captures = s'.captures
  names : s.names.map Prod.fst = s'.names.map Prod.fst
  opened : List.Forall₂ Open.Alike s.opened s'.opened
  classes : List.Forall₂ OpenClass.Alike s.classes s'.classes

/-- The same piece comes next. -/
structure Alike (s s' : ReaderState) : Prop where
  rest : Unescapes s.rest s'.rest
  around : s.Around s'

/-- The same character comes next, be it a piece or in one, and behind it the same piece. -/
structure Before (c : Char) (s s' : ReaderState) : Prop where
  rest : ∃ r r', s.rest = c :: r ∧ s'.rest = c :: r' ∧ Unescapes r r'
  around : s.Around s'

/-- From states to states that are alike, with at least the given number of characters taken from both texts. -/
structure Follows (k : Nat) (s s' t t' : ReaderState) : Prop where
  alike : t.Alike t'
  taken : t.rest.length + k ≤ s.rest.length
  taken' : t'.rest.length + k ≤ s'.rest.length

variable {s s' t t' u u' : ReaderState} {c : Char} {k : Nat}

theorem Follows.refl (alike : s.Alike s') : Follows 0 s s' s s' := ⟨alike, Nat.le_refl _, Nat.le_refl _⟩

theorem Follows.trans {m : Nat} (after : Follows k s s' t t') (after' : Follows m t t' u u') :
    Follows (k + m) s s' u u' := by
  obtain ⟨-, taken, taken'⟩ := after
  obtain ⟨alike, more, more'⟩ := after'
  exact ⟨alike, by omega, by omega⟩

/-- What comes next: nothing, the same character, or an escape in the first text. -/
theorem Alike.head (alike : s.Alike s') :
    s.rest = [] ∧ s'.rest = [] ∨ (∃ c, NoSlash c ∧ Before c s s') ∨
      s.rest.head? = some '\\' ∧ ∃ c, s'.rest.head? = some c ∧ ¬ NoSlash c := by
  generalize same : s.rest = r
  generalize same' : s'.rest = r'
  have rest := alike.rest
  rw [same, same'] at rest
  cases rest with
  | nil => exact .inl ⟨rfl, rfl⟩
  | plain self rest => exact .inr (.inl ⟨_, self, ⟨_, _, same, same', rest⟩, alike.around⟩)
  | escape => exact .inr (.inr ⟨rfl, '\\', rfl, by decide⟩)
  | slash => exact .inr (.inr ⟨rfl, '/', rfl, by decide⟩)

/-- Both texts end at once. -/
theorem Alike.nil_of_or (alike : s.Alike s') (empty : s.rest = [] ∨ s'.rest = []) :
    s.rest = [] ∧ s'.rest = [] :=
  empty.elim (fun e => ⟨e, alike.rest.eq_nil_iff.mp e⟩) fun e => ⟨alike.rest.eq_nil_iff.mpr e, e⟩

theorem Around.moved {r r' : List Char} {p p' : Position} (around : s.Around s') :
    Around { s with rest := r, position := p } { s' with rest := r', position := p' } :=
  ⟨around.ignoreSpace, around.captures, around.names, around.opened, around.classes⟩

theorem Around.withSpace (around : s.Around s') (ignored : Bool) :
    Around { s with ignoreSpace := ignored } { s' with ignoreSpace := ignored } :=
  ⟨rfl, around.captures, around.names, around.opened, around.classes⟩

theorem Around.withOpened (around : s.Around s') {opened opened' : List Open}
    (all : List.Forall₂ Open.Alike opened opened') :
    Around { s with opened := opened } { s' with opened := opened' } :=
  ⟨around.ignoreSpace, around.captures, around.names, all, around.classes⟩

theorem Around.withClasses (around : s.Around s') {classes classes' : List OpenClass}
    (all : List.Forall₂ OpenClass.Alike classes classes') :
    Around { s with classes := classes } { s' with classes := classes' } :=
  ⟨around.ignoreSpace, around.captures, around.names, around.opened, all⟩

/-- Changes that leave the texts alone. -/
theorem Alike.follows (alike : s.Alike s') (around : t.Around t') (same : t.rest = s.rest)
    (same' : t'.rest = s'.rest) : Follows 0 s s' t t' := by
  refine ⟨⟨?_, around⟩, Nat.le_of_eq (congrArg _ same), Nat.le_of_eq (congrArg _ same')⟩
  rw [same, same']
  exact alike.rest

/-- An escape is the same one in both texts, or that of a slash. -/
theorem Alike.escape (alike : s.Alike s') (first : s.rest.head? = some '\\') :
    ∃ d r r', s.rest = '\\' :: d :: r ∧ Unescapes r r' ∧
      (s'.rest = '\\' :: d :: r' ∧ d ≠ '/' ∨ s'.rest = '/' :: r' ∧ d = '/') := by
  generalize same : s.rest = r at first
  generalize same' : s'.rest = r'
  have rest := alike.rest
  rw [same, same'] at rest
  cases rest with
  | nil => cases first
  | plain self => exact absurd (Option.some.inj first) self.1
  | escape other rest => exact ⟨_, _, _, rfl, rest, .inl ⟨rfl, other⟩⟩
  | slash rest => exact ⟨_, _, _, rfl, rest, .inr ⟨rfl, rfl⟩⟩

theorem Before.head? (before : Before c s s') : s.rest.head? = some c ∧ s'.rest.head? = some c := by
  obtain ⟨r, r', same, same', -⟩ := before.rest
  rw [same, same']
  exact ⟨rfl, rfl⟩

theorem Before.length_pos (before : Before c s s') : 0 < s.rest.length ∧ 0 < s'.rest.length := by
  obtain ⟨r, r', same, same', -⟩ := before.rest
  rw [same, same']
  exact ⟨Nat.succ_pos _, Nat.succ_pos _⟩

theorem Before.alike (before : Before c s s') (self : NoSlash c) : s.Alike s' := by
  obtain ⟨r, r', same, same', rest⟩ := before.rest
  refine ⟨?_, before.around⟩
  rw [same, same']
  exact .plain self rest

theorem Before.withAround (before : Before c s s') (around : t.Around t') (same : t.rest = s.rest)
    (same' : t'.rest = s'.rest) : Before c t t' := by
  refine ⟨?_, around⟩
  rw [same, same']
  exact before.rest

/-- Conditions that no slash and no backslash satisfies hold of what comes next in both texts or in neither. -/
theorem Alike.any_head? (alike : s.Alike s') {p : Char → Bool} (self : ∀ c, p c = true → NoSlash c) :
    s.rest.head?.any p = s'.rest.head?.any p := by
  have stop {c : Char} (other : ¬ NoSlash c) : p c = false :=
    Bool.eq_false_iff.mpr fun found => other (self c found)
  rcases alike.head with ⟨empty, empty'⟩ | ⟨c, -, before⟩ | ⟨first, c, first', other⟩
  · rw [empty, empty']
  · rw [before.head?.1, before.head?.2]
  · rw [first, first', Option.any_some, Option.any_some, stop other, stop (by decide)]

theorem Alike.before (alike : s.Alike s') (self : NoSlash c) (first : s.rest.head? = some c) : Before c s s' := by
  rcases alike.head with ⟨empty, -⟩ | ⟨d, -, before⟩ | ⟨first', -⟩
  · rw [empty] at first
    cases first
  · cases before.head?.1.symm.trans first
    exact before
  · cases first'.symm.trans first
    exact absurd rfl self.1

end ReaderState

open Reader ReaderState

/-! ## Simulation -/

/-- A computation whose first step is known. -/
theorem run_bind {α β : Type} {x : Reader α} {f : α → Reader β} {s t : ReaderState} {a : α}
    (ran : x s = .ok (a, t)) : (x >>= f) s = f a t := by
  change (x s >>= fun p => f p.1 p.2) = _
  rw [ran]
  rfl

/-- Computations that never succeed. -/
def Fails {α : Type} (x : Reader α) : Prop := ∀ s a t, x s ≠ .ok (a, t)

namespace Fails

variable {α β : Type}

theorem fault {cause : Cause} {x : Extent} : Fails (Reader.fault cause x : Reader α) := nofun

theorem faultWith {cause : Cause} {x clash : Extent} : Fails (Reader.faultWith cause x clash : Reader α) := nofun

/-- What comes behind a failure does not count. -/
theorem first {x : Reader α} {f : α → Reader β} (fails : Fails x) : Fails (x >>= f) := by
  intro s b u ran
  obtain ⟨⟨a, t⟩, ran', -⟩ := (bind_eq_ok_iff ..).mp ran
  exact fails s a t ran'

/-- What comes in front of a failure does not help. -/
theorem after {x : Reader α} {f : α → Reader β} (fails : ∀ a, Fails (f a)) : Fails (x >>= f) := by
  intro s b u ran
  obtain ⟨⟨a, t⟩, -, ran'⟩ := (bind_eq_ok_iff ..).mp ran
  exact fails a t b u ran'

end Fails

/-- Where the first computation succeeds the second one does, and both take at least the given number of
characters. The results are related, and so is the state in which the first computation ends. -/
def Simulates {α β : Type} (k : Nat) (s s' : ReaderState) (x : Reader α) (x' : Reader β)
    (R : α → β → ReaderState → Prop) : Prop :=
  ∀ a t, x s = .ok (a, t) → ∃ a' t', x' s' = .ok (a', t') ∧ R a a' t ∧ Follows k s s' t t'

/-- Nothing is known of the results. -/
def Anything {α β : Type} : α → β → ReaderState → Prop := fun _ _ _ => True

/-- The results are equal. -/
def Same {α : Type} : α → α → ReaderState → Prop := fun a a' _ => a = a'

/-- The first tree is refined by the second one. -/
def SameTree (t t' : Tree) (_ : ReaderState) : Prop := t.Refines t'

/-- The first set is refined by the second one. -/
def SameSet (a a' : ClassSet) (_ : ReaderState) : Prop := a.Refines a'

theorem isEmpty_eq_of_forall₂ {α β : Type} {R : α → β → Prop} {l : List α} {l' : List β}
    (all : List.Forall₂ R l l') : l.isEmpty = l'.isEmpty := by
  cases all <;> rfl

namespace Simulates

variable {α β γ δ : Type} {k : Nat} {s s' t t' : ReaderState} {x : Reader α} {x' : Reader β}
  {f : α → Reader γ} {f' : β → Reader δ} {Q : α → β → ReaderState → Prop} {R : γ → δ → ReaderState → Prop}
  {a : α} {a' : β}

/-- Nothing is asked for where the first computation fails. -/
theorem of_fails (fails : Fails x) : Simulates k s s' x x' Q :=
  fun a t ran => absurd ran (fails s a t)

theorem of_run (ran : x s = .ok (a, t)) (ran' : x' s' = .ok (a', t')) (related : Q a a' t)
    (after : Follows k s s' t t') : Simulates k s s' x x' Q := by
  intro b u ran''
  cases ran.symm.trans ran''
  exact ⟨a', t', ran', related, after⟩

theorem pure (alike : s.Alike s') (related : Q a a' s) :
    Simulates 0 s s' (Pure.pure a : Reader α) (Pure.pure a' : Reader β) Q :=
  of_run rfl rfl related (.refl alike)

/-- Computations that begin with steps of their own. -/
theorem of_eq {x₁ : Reader α} {x₁' : Reader β} (ran : x s = x₁ t) (ran' : x' s' = x₁' t')
    (less : t.rest.length ≤ s.rest.length) (less' : t'.rest.length ≤ s'.rest.length)
    (next : Simulates k t t' x₁ x₁' Q) : Simulates k s s' x x' Q := by
  intro a u ran₁
  obtain ⟨a', u', ran₁', related, after⟩ := next a u (ran.symm.trans ran₁)
  exact ⟨a', u', ran'.trans ran₁', related, after.alike, Nat.le_trans after.taken less,
    Nat.le_trans after.taken' less'⟩

theorem mono {Q' : α → β → ReaderState → Prop} (first : Simulates k s s' x x' Q)
    (weaker : ∀ {a a' t}, Q a a' t → Q' a a' t) : Simulates k s s' x x' Q' := by
  intro a t ran
  obtain ⟨a', t', ran', related, after⟩ := first a t ran
  exact ⟨a', t', ran', weaker related, after⟩

theorem weaken (first : Simulates (k + 1) s s' x x' Q) : Simulates k s s' x x' Q := by
  intro a t ran
  obtain ⟨a', t', ran', related, after⟩ := first a t ran
  have taken := after.taken
  have taken' := after.taken'
  exact ⟨a', t', ran', related, after.alike, by omega, by omega⟩

/-- One computation after another. -/
theorem andThen {m : Nat} (first : Simulates k s s' x x' Q)
    (next : ∀ {a a' t t'}, Q a a' t → Follows k s s' t t' → Simulates m t t' (f a) (f' a') R) :
    Simulates (k + m) s s' (x >>= f) (x' >>= f') R := by
  intro c u ran
  obtain ⟨⟨a, t⟩, ran₁, ran₂⟩ := (bind_eq_ok_iff ..).mp ran
  obtain ⟨a', t', ran₁', related, after⟩ := first a t ran₁
  obtain ⟨c', u', ran₂', related', after'⟩ := next related after c u ran₂
  exact ⟨c', u', (bind_eq_ok_iff ..).mpr ⟨(a', t'), ran₁', ran₂'⟩, related', after.trans after'⟩

/-- The characters are counted in the second computation. -/
theorem bind (first : Simulates 0 s s' x x' Q)
    (next : ∀ {a a' t t'}, Q a a' t → Follows 0 s s' t t' → Simulates k t t' (f a) (f' a') R) :
    Simulates k s s' (x >>= f) (x' >>= f') R := by
  rw [← Nat.zero_add k]
  exact andThen first next

/-- The characters are counted in the first computation. -/
theorem step (first : Simulates k s s' x x' Q)
    (next : ∀ {a a' t t'}, Q a a' t → Follows k s s' t t' → Simulates 0 t t' (f a) (f' a') R) :
    Simulates k s s' (x >>= f) (x' >>= f') R :=
  andThen first next

/-- Looking at the state changes nothing. -/
theorem reads (read : x s = .ok (a, s)) (read' : x' s' = .ok (a', s'))
    (next : Simulates k s s' (f a) (f' a') R) : Simulates k s s' (x >>= f) (x' >>= f') R :=
  of_eq (run_bind read) (run_bind read') (Nat.le_refl _) (Nat.le_refl _) next

theorem getState {f : ReaderState → Reader γ} {f' : ReaderState → Reader δ}
    (next : Simulates k s s' (f s) (f' s') R) : Simulates k s s' (get >>= f) (get >>= f') R :=
  reads rfl rfl next

theorem look {f : Option Char → Reader γ} {f' : Option Char → Reader δ}
    (next : Simulates k s s' (f s.rest.head?) (f' s'.rest.head?) R) :
    Simulates k s s' (Reader.peek >>= f) (Reader.peek >>= f') R :=
  reads rfl rfl next

/-- Other states may be put in place. -/
theorem sets {f : PUnit → Reader γ} {f' : PUnit → Reader δ} (same : t.rest = s.rest) (same' : t'.rest = s'.rest)
    (next : Simulates k t t' (f ⟨⟩) (f' ⟨⟩) R) : Simulates k s s' (set t >>= f) (set t' >>= f') R := by
  have put (s t : ReaderState) : (set t : Reader PUnit) s = .ok (⟨⟩, t) := rfl
  exact of_eq (run_bind (put s t)) (run_bind (put s' t')) (Nat.le_of_eq (congrArg _ same))
    (Nat.le_of_eq (congrArg _ same')) next

/-- A computation goes on by what comes next. -/
theorem peek {f : Option Char → Reader γ} {f' : Option Char → Reader δ} (alike : s.Alike s')
    (none : s.rest = [] → s'.rest = [] → Simulates k s s' (f none) (f' none) R)
    (plain : ∀ c, NoSlash c → Before c s s' → Simulates k s s' (f (some c)) (f' (some c)) R)
    (escape : ∀ c, ¬ NoSlash c → s.rest.head? = some '\\' → s'.rest.head? = some c →
      Simulates k s s' (f (some '\\')) (f' (some c)) R) :
    Simulates k s s' (Reader.peek >>= f) (Reader.peek >>= f') R := by
  refine look ?_
  rcases alike.head with ⟨empty, empty'⟩ | ⟨c, self, before⟩ | ⟨first, c, first', other⟩
  · rw [empty, empty']
    exact none empty empty'
  · rw [before.head?.1, before.head?.2]
    exact plain c self before
  · rw [first, first']
    exact escape c other first first'

/-- A computation goes on by whether a certain character comes next. -/
theorem ifNext {c : Char} {yes no : Reader γ} {yes' no' : Reader δ} (alike : s.Alike s') (self : NoSlash c)
    (found : Before c s s' → Simulates k s s' yes yes' R)
    (other : s.rest.head? ≠ some c → Simulates k s s' no no' R) :
    Simulates k s s' (Reader.peek >>= fun d => if d = some c then yes else no)
      (Reader.peek >>= fun d => if d = some c then yes' else no') R := by
  refine look ?_
  have same := alike.rest.head?_eq_some_iff self
  by_cases here : s.rest.head? = some c
  · rw [if_pos here, if_pos (same.mp here)]
    exact found (alike.before self here)
  · rw [if_neg here, if_neg (mt same.mpr here)]
    exact other here

/-- A computation that fails unless a certain character comes next. -/
theorem unlessNext {c : Char} {stuck next : Reader γ} {stuck' next' : Reader δ} (alike : s.Alike s')
    (self : NoSlash c) (fails : Fails stuck) (found : Before c s s' → Simulates k s s' next next' R) :
    Simulates k s s' (Reader.peek >>= fun d => if d ≠ some c then stuck else next)
      (Reader.peek >>= fun d => if d ≠ some c then stuck' else next') R := by
  simp only [ite_not]
  exact ifNext alike self found fun _ => of_fails fails

/-- A computation that fails at the end goes on only if something is left. -/
theorem atEnd {stuck next : Reader γ} {stuck' next' : Reader δ} (alike : s.Alike s') (fails : Fails stuck)
    (go : s.rest ≠ [] → Simulates k s s' next next' R) :
    Simulates k s s' (Reader.atEnd >>= fun ends => if ends = true then stuck else next)
      (Reader.atEnd >>= fun ends => if ends = true then stuck' else next') R := by
  have read (s : ReaderState) : Reader.atEnd s = .ok (s.rest.isEmpty, s) := rfl
  refine reads (read s) (read s') ?_
  by_cases empty : s.rest = []
  · rw [if_pos (List.isEmpty_iff.mpr empty)]
    exact of_fails fails
  · have some' : s'.rest ≠ [] := mt alike.rest.eq_nil_iff.mpr empty
    rw [if_neg (by rwa [List.isEmpty_iff]), if_neg (by rwa [List.isEmpty_iff])]
    exact go empty

theorem hereChar_run (s : ReaderState) : ∃ x, Reader.hereChar s = .ok (x, s) := by
  obtain ⟨rest, position, ignoreSpace, captures, names, opened, classes⟩ := s
  cases rest <;> exact ⟨_, rfl⟩

/-- Extents do not matter. -/
theorem hereChar {f : Extent → Reader γ} {f' : Extent → Reader δ}
    (next : ∀ x x', Simulates k s s' (f x) (f' x') R) :
    Simulates k s s' (Reader.hereChar >>= f) (Reader.hereChar >>= f') R := by
  obtain ⟨x, read⟩ := hereChar_run s
  obtain ⟨x', read'⟩ := hereChar_run s'
  exact reads read read' (next x x')

theorem hereChar_right {x₁ : Reader γ} {f' : Extent → Reader δ} (next : ∀ x, Simulates k s s' x₁ (f' x) R) :
    Simulates k s s' x₁ (Reader.hereChar >>= f') R := by
  obtain ⟨x, read⟩ := hereChar_run s'
  exact of_eq rfl (run_bind read) (Nat.le_refl _) (Nat.le_refl _) (next x)

section Loops

variable {ι κ : Type} {y : ι → Nat → Reader α} {z : κ → Nat → Reader β}
  {P : ι → κ → ReaderState → ReaderState → Prop}

/-- Loops whose turns all take a character, run with more fuel than there are characters left. A turn goes on to the
next one with less left. -/
theorem loop
    (turn : ∀ {i j n n' s s'}, P i j s s' →
      (∀ {i j t t'}, P i j t t' → t.rest.length < s.rest.length → t'.rest.length < s'.rest.length →
        Simulates k t t' (y i n) (z j n') Q) →
      Simulates k s s' (y i (n + 1)) (z j (n' + 1)) Q) :
    ∀ {i j n n' s s'}, P i j s s' → s.rest.length < n → s'.rest.length < n' →
      Simulates k s s' (y i n) (z j n') Q := by
  intro i j n
  induction n generalizing i j with
  | zero => exact fun _ fuel => absurd fuel (Nat.not_lt_zero _)
  | succ n ih =>
    intro n' s s' entered fuel fuel'
    cases n' with
    | zero => exact absurd fuel' (Nat.not_lt_zero _)
    | succ n' => exact turn entered fun entered' less less' => ih entered' (by omega) (by omega)

/-- The same for loops that end where nothing is left, run with as much fuel as there are characters left. -/
theorem loopWhile
    (ends : ∀ {i j n n' s s'}, P i j s s' → s.rest = [] ∨ s'.rest = [] → Simulates 0 s s' (y i n) (z j n') Q)
    (turn : ∀ {i j n n' s s'}, P i j s s' →
      (∀ {i j t t'}, P i j t t' → t.rest.length < s.rest.length → t'.rest.length < s'.rest.length →
        Simulates 0 t t' (y i n) (z j n') Q) →
      Simulates 0 s s' (y i (n + 1)) (z j (n' + 1)) Q) :
    ∀ {i j n n' s s'}, P i j s s' → s.rest.length ≤ n → s'.rest.length ≤ n' →
      Simulates 0 s s' (y i n) (z j n') Q := by
  intro i j n
  induction n generalizing i j with
  | zero =>
    exact fun entered fuel _ => ends entered (.inl (List.length_eq_zero_iff.mp (Nat.le_zero.mp fuel)))
  | succ n ih =>
    intro n' s s' entered fuel fuel'
    cases n' with
    | zero => exact ends entered (.inr (List.length_eq_zero_iff.mp (Nat.le_zero.mp fuel')))
    | succ n' => exact turn entered fun entered' less less' => ih entered' (by omega) (by omega)

/-- Loops over a list that none of their turns breaks off. -/
theorem forIn {items : List ι} {f f' : ι → PUnit → Reader (ForInStep PUnit)}
    (turn : ∀ i ∈ items, ∀ s s', s.Alike s' →
      Simulates 0 s s' (f i ⟨⟩) (f' i ⟨⟩) fun a a' _ => a = .yield ⟨⟩ ∧ a' = .yield ⟨⟩)
    (alike : s.Alike s') : Simulates 0 s s' (ForIn.forIn items PUnit.unit f) (ForIn.forIn items PUnit.unit f')
      Anything := by
  induction items generalizing s s' with
  | nil => exact .pure alike trivial
  | cons i items ih =>
    obtain ⟨first, others⟩ := List.forall_mem_cons.mp turn
    rw [List.forIn_cons, List.forIn_cons]
    refine .bind (first s s' alike) ?_
    rintro _ _ t t' ⟨rfl, rfl⟩ after
    exact ih others after.alike

end Loops

end Simulates

/-! ## Steps of the reader -/

section Steps

variable {s s' : ReaderState} {c : Char}

theorem bump_run {r : List Char} (same : s.rest = c :: r) :
    bump s = .ok ((), { s with rest := r, position := s.position.advance c }) := by
  cases s
  cases same
  rfl

theorem bump_simulates (before : Before c s s') : Simulates 1 s s' bump bump Anything := by
  obtain ⟨r, r', same, same', rest⟩ := before.rest
  refine .of_run (bump_run same) (bump_run same') trivial ⟨⟨rest, before.around.moved⟩, ?_, ?_⟩
  · rw [same]
    exact Nat.le_refl _
  · rw [same']
    exact Nat.le_refl _

/-- The state behind blanks. -/
def skipped (s : ReaderState) : ReaderState :=
  if s.ignoreSpace then
    { s with
      rest := (blanksEnd false s.rest s.position).1
      position := (blanksEnd false s.rest s.position).2 }
  else s

theorem skipBlanks_run (s : ReaderState) : skipBlanks s = .ok ((), skipped s) := rfl

theorem length_skipped (s : ReaderState) : (skipped s).rest.length ≤ s.rest.length := by
  unfold skipped
  split
  · exact length_blanksEnd ..
  · exact Nat.le_refl _

theorem skipped_alike (alike : s.Alike s') : (skipped s).Alike (skipped s') := by
  have same := alike.around.ignoreSpace
  unfold skipped
  by_cases ignored : s.ignoreSpace = true
  · rw [if_pos ignored, if_pos (same ▸ ignored)]
    exact ⟨unescapes_blanksEnd alike.rest .., alike.around.moved⟩
  · rw [if_neg ignored, if_neg (same ▸ ignored)]
    exact alike

theorem skipBlanks_simulates (alike : s.Alike s') : Simulates 0 s s' skipBlanks skipBlanks Anything :=
  .of_run (skipBlanks_run s) (skipBlanks_run s') trivial
    ⟨skipped_alike alike, length_skipped s, length_skipped s'⟩

/-- Both texts go on, or both are at their end. -/
def GoesOn (more more' : Bool) (t : ReaderState) : Prop := more = more' ∧ (more = true ↔ t.rest ≠ [])

/-- The state behind a character and the blanks that follow it. -/
def bumped (s : ReaderState) (c : Char) (r : List Char) : ReaderState :=
  skipped { s with rest := r, position := s.position.advance c }

theorem bumpAndSkip_run {r : List Char} (written : s.rest = c :: r) :
    bumpAndSkip s = .ok (!(bumped s c r).rest.isEmpty, bumped s c r) := by
  change (bump s >>= fun p => (do skipBlanks; return !(← atEnd) : Reader Bool) p.2) = _
  rw [bump_run written]
  rfl

theorem bumpAndSkip_simulates (before : Before c s s') : Simulates 1 s s' bumpAndSkip bumpAndSkip GoesOn := by
  refine .step (bump_simulates before) fun _ after => .bind (skipBlanks_simulates after.alike) fun _ after' => ?_
  refine .of_run rfl rfl ⟨?_, ?_⟩ (.refl after'.alike)
  · rw [Bool.eq_iff_iff, Bool.not_eq_true', Bool.not_eq_true', List.isEmpty_eq_false_iff,
      List.isEmpty_eq_false_iff]
    exact not_congr after'.alike.rest.eq_nil_iff
  · rw [Bool.not_eq_true', List.isEmpty_eq_false_iff]

/-- A step over one character that must not be the last one. -/
theorem bumpOr_simulates {α β : Type} {stuck next : Reader α} {stuck' next' : Reader β}
    {R : α → β → ReaderState → Prop} (before : Before c s s') (fails : Fails stuck)
    (go : ∀ {t t'}, Follows 1 s s' t t' → Simulates 0 t t' next next' R) :
    Simulates 1 s s' (do if !(← bumpAndSkip) then stuck else next) (do if !(← bumpAndSkip) then stuck' else next')
      R := by
  refine .step (bumpAndSkip_simulates before) fun {more _ _ _} ⟨same, _⟩ after => ?_
  cases same
  cases more with
  | false => exact .of_fails fails
  | true => exact go after

theorem bumpTimes_run (n : Nat) : ∀ s : ReaderState, ∃ p,
    bumpTimes n s = .ok ((), { s with rest := s.rest.drop n, position := p }) := by
  induction n with
  | zero => exact fun s => ⟨s.position, rfl⟩
  | succ n ih =>
    intro s
    obtain ⟨rest, position, ignoreSpace, captures, names, opened, classes⟩ := s
    cases rest with
    | nil =>
      obtain ⟨p, ran⟩ := ih ⟨[], position, ignoreSpace, captures, names, opened, classes⟩
      refine ⟨p, ran.trans ?_⟩
      rw [List.drop_nil, List.drop_nil]
    | cons c r =>
      exact ih ⟨r, position.advance c, ignoreSpace, captures, names, opened, classes⟩

/-- A piece of text is stepped over in both or in neither. -/
theorem bumpIf_simulates (alike : s.Alike s') {text : List Char} (self : text.all (NoSlash ·) = true) :
    Simulates 0 s s' (bumpIf text) (bumpIf text) Same := by
  obtain ⟨same, behind⟩ := alike.rest.prefix_iff fun c inside => of_decide_eq_true (List.all_eq_true.mp self c inside)
  refine .reads rfl rfl ?_
  rw [← List.isPrefixOf_iff_prefix, ← List.isPrefixOf_iff_prefix] at same
  by_cases front : text.isPrefixOf s.rest = true
  · rw [if_pos front, if_pos (same.mp front)]
    obtain ⟨p, ran⟩ := bumpTimes_run text.length s
    obtain ⟨p', ran'⟩ := bumpTimes_run text.length s'
    have after : Follows 0 s s' { s with rest := s.rest.drop text.length, position := p }
        { s' with rest := s'.rest.drop text.length, position := p' } :=
      ⟨⟨behind (List.isPrefixOf_iff_prefix.mp front), alike.around.moved⟩, by simp, by simp⟩
    exact .bind (.of_run (Q := Anything) ran ran' trivial after) fun _ after => .pure after.alike rfl
  · rw [if_neg front, if_neg (mt same.mpr front)]
    exact .pure alike rfl

theorem takeSpaced_nil (p : Char → Bool) (n : Nat) (empty : s.rest = []) : takeSpaced p n s = .ok ([], s) := by
  obtain ⟨rest, position, ignoreSpace, captures, names, opened, classes⟩ := s
  cases empty
  cases n <;> rfl

/-- Characters are taken alike if neither a slash nor a backslash is among them. -/
theorem takeSpaced_simulates {p : Char → Bool} (self : ∀ c, p c = true → NoSlash c) {n n' : Nat}
    (alike : s.Alike s') (fuel : s.rest.length ≤ n) (fuel' : s'.rest.length ≤ n') :
    Simulates 0 s s' (takeSpaced p n) (takeSpaced p n') Same := by
  refine Simulates.loopWhile (y := fun _ : Unit => takeSpaced p) (z := fun _ : Unit => takeSpaced p)
    (P := fun _ _ s s' => s.Alike s') (i := ()) (j := ()) ?_ ?_ alike fuel fuel'
  · intro _ _ n n' s s' alike empty
    obtain ⟨empty, empty'⟩ := alike.nil_of_or empty
    exact .of_run (takeSpaced_nil p n empty) (takeSpaced_nil p n' empty') rfl (.refl alike)
  · intro _ _ n n' s s' alike next
    rw [takeSpaced, takeSpaced]
    refine .peek alike (fun _ _ => .pure alike rfl) (fun c _ before => ?_) (fun c other _ _ => ?_)
    · dsimp only
      split
      · refine (Simulates.step (bumpAndSkip_simulates before) fun _ after => ?_).weaken
        exact .bind (next (i := ()) (j := ()) after.alike after.taken after.taken') fun same after' =>
          .pure after'.alike (congrArg (List.cons c) same)
      · exact .pure alike rfl
    · have stop : ¬ p '\\' = true := fun found => absurd (self _ found) (by decide)
      have stop' : ¬ p c = true := fun found => other (self c found)
      dsimp only
      rw [if_neg stop, if_neg stop']
      exact .pure alike rfl

theorem takeAll_simulates {p : Char → Bool} (self : ∀ c, p c = true → NoSlash c) (alike : s.Alike s') :
    Simulates 0 s s' (takeAll p) (takeAll p) Same :=
  .reads rfl rfl (takeSpaced_simulates self alike (Nat.le_refl _) (Nat.le_refl _))

theorem skipWhite_nil (skip : Reader Unit) (n : Nat) (empty : s.rest = []) :
    skipWhite skip n s = .ok ((), s) := by
  obtain ⟨rest, position, ignoreSpace, captures, names, opened, classes⟩ := s
  cases empty
  cases n <;> rfl

/-- White space is skipped alike. -/
theorem skipWhite_simulates {skip : Reader Unit}
    (skips : ∀ {s s' : ReaderState} {c : Char}, Before c s s' → Simulates 1 s s' skip skip Anything)
    {n n' : Nat} (alike : s.Alike s') (fuel : s.rest.length ≤ n) (fuel' : s'.rest.length ≤ n') :
    Simulates 0 s s' (skipWhite skip n) (skipWhite skip n') Anything := by
  refine Simulates.loopWhile (y := fun _ : Unit => skipWhite skip) (z := fun _ : Unit => skipWhite skip)
    (P := fun _ _ s s' => s.Alike s') (i := ()) (j := ()) ?_ ?_ alike fuel fuel'
  · intro _ _ n n' s s' alike empty
    obtain ⟨empty, empty'⟩ := alike.nil_of_or empty
    exact .of_run (skipWhite_nil skip n empty) (skipWhite_nil skip n' empty') trivial (.refl alike)
  · intro _ _ n n' s s' alike next
    rw [skipWhite, skipWhite]
    refine .peek alike (fun _ _ => .pure alike trivial) (fun c _ before => ?_) (fun c other _ _ => ?_)
    · dsimp only
      split
      · exact (Simulates.step (skips before) fun _ after =>
          next (i := ()) (j := ()) after.alike after.taken after.taken').weaken
      · exact .pure alike trivial
    · dsimp only
      rw [isWhiteSpace_eq_false (by decide : ¬ NoSlash '\\'), isWhiteSpace_eq_false other]
      exact .pure alike trivial

end Steps

end MockSchema.Pattern
