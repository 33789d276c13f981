import MockSchema.Proofs.Tape

/-!
# Every text of a pattern

Nothing of a pattern's language is missed: whatever number of repetitions, branch and member is chosen at
each place of the expression, some words lead to the text those choices make up (`sample_reaches`). The words
for what comes first are written in front of the words for what comes behind. Together with the converse, that
nothing else is drawn, this says exactly which texts a pattern can give.
-/

namespace MockSchema.Pattern

open Gen

/-- Some words lead to an optional part, and some lead past it. -/
def Settings.Undecided (settings : Settings) : Prop :=
  ∀ outcome : Bool, ∃ s s' : Random.Stream,
    (Random.chance settings.optionalProbability).runFrom s = (.ok outcome, s')

/-- The counts end before 32 bits do. -/
def Counts.Fits (settings : Settings) (counts : Counts) : Prop :=
  counts.max = none → 1 < counts.min.toNat →
    counts.min.toNat + settings.maxRepeat.toNat < UInt32.size

/-- Every list of branches is one that a memory of 64-bit addresses can hold. -/
def Expr.Addressable (e : Expr) : Prop := e.Every (fun _ => True) (· ≤ UInt64.size)

/-- All counts end before 32 bits do. -/
def Expr.Unsaturated (settings : Settings) (e : Expr) : Prop :=
  e.Every (Counts.Fits settings) fun _ => True

variable {settings : Settings}

theorem Counts.Fits.drawn_subset_within {counts : Counts} (fits : counts.Fits settings) :
    counts.drawn settings ⊆ counts.within settings := by
  have limit := settings.maxRepeat.toNat_lt
  refine fun n member => ⟨member, fun unbounded => ?_⟩
  have fits := fits unbounded
  simp only [Counts.drawn, unbounded] at member
  simp only [UInt32.size] at fits ⊢
  split at member
  · simp only [Set.mem_Ico] at member
    omega
  · split at member
    · simp only [Set.mem_Ico] at member
      omega
    · next zero one =>
      rw [← UInt32.toNat_inj, UInt32.toNat_zero] at zero
      rw [← UInt32.toNat_inj, UInt32.toNat_one] at one
      simp only [Set.mem_Ico] at member
      omega

variable {σ : Type} [RandomSource σ] {tape : List UInt64 → σ}

/-! ## Single choices -/

/-- A draw of a truth value takes at most one word, and that word can be written anywhere. -/
theorem chance_reaches_of_run (reads : IsTape tape) {p : Binary64} {outcome : Bool}
    {s s' : Random.Stream} (run : (Random.chance p).runFrom s = (.ok outcome, s')) :
    Reaches tape (Random.chance p) outcome := by
  unfold Random.chance at run ⊢
  split at run
  · next certain =>
    rw [if_pos certain]
    cases run
    exact reaches_pure true
  · next uncertain =>
    rw [if_neg uncertain]
    split at run
    · cases run
    · next probability =>
      rw [if_neg probability]
      cases run
      refine reaches_step fun rest => ⟨s.word s.place :: rest, ?_⟩
      simp only [Random.word64_tape reads]

/-- Every number of repetitions is drawn from some words. -/
theorem drawCount_reaches_within (reads : IsTape tape) (undecided : settings.Undecided)
    {counts : Counts} {n : Nat} (number : n ∈ counts.within settings) :
    Reaches tape (drawCount settings counts) n := by
  unfold drawCount
  split
  · next part =>
    subst part
    have bound : n ≤ 1 := number.1.2
    obtain ⟨s, s', run⟩ := undecided (decide (n = 1))
    have reached := (chance_reaches_of_run reads run).map (f := fun b => if b then 1 else 0)
    have value : (if decide (n = 1) = true then 1 else 0) = n := by
      simp only [decide_eq_true_eq]
      split <;> omega
    rwa [value] at reached
  · obtain ⟨low, high⟩ := (mem_within_iff settings counts n).mp number
    exact Random.between32_reaches reads low high (countBounds_lt settings counts)

/-- Every member of a class is drawn from some words, and where there is none the empty text. -/
theorem drawMember_reaches (reads : IsTape tape) {set : CharSet} (proper : set.Proper)
    (alphabet : Alphabet) {numbers : Counts → Set Nat} {t : List Char}
    (member : t ∈ (Expr.class alphabet set).languageOver numbers) :
    Reaches tape (drawMember set) t := by
  rw [Expr.mem_languageOver_class] at member
  simp only [CharSet.isEmpty_iff_count_eq_zero proper.ends] at member
  unfold drawMember
  split at member
  · next none =>
    rw [if_pos none, member]
    exact reaches_pure []
  · next some =>
    obtain ⟨c, contained, rfl⟩ := member
    obtain ⟨place, inside, found⟩ := CharSet.exists_get? proper.ends contained
    have few : set.count ≤ UInt32.size := (CharSet.count_le proper).trans (by decide)
    have reached := (Random.below32_reaches reads few inside).map
      (f := fun place => (set.get? place).toList)
    rw [found] at reached
    rwa [if_neg some]

/-! ## Expressions -/

namespace Expr

mutual

/-- The choices that make up a text are drawn one after the other. -/
theorem sample_reaches (reads : IsTape tape) (undecided : settings.Undecided) : ∀ e : Expr, e.Formed →
    e.Addressable → ∀ t ∈ e.languageOver (Counts.within settings),
      Reaches tape (e.sample settings) t
  | .empty, _, _, t, member => (Language.mem_one t).mp member ▸ reaches_pure []
  | .look _, _, _, t, member => (Language.mem_one t).mp member ▸ reaches_pure []
  | .literal s, _, _, _, member => by
    cases member
    exact reaches_pure s
  | .class alphabet set, formed, _, t, member => drawMember_reaches reads formed alphabet member
  | .repetition counts _ sub, formed, addressable, t, member => by
    obtain ⟨n, number, member⟩ := member
    obtain ⟨texts, rfl, rfl, each⟩ := Language.mem_pow.mp member
    have repeated := Reaches.times fun u listed =>
      sample_reaches reads undecided sub formed addressable.2 u (each u listed)
    exact (drawCount_reaches_within reads undecided number).bind repeated.map
  | .capture _ _ sub, formed, addressable, t, member =>
    sample_reaches reads undecided sub formed addressable t member
  | .concat parts, formed, addressable, t, member =>
    sampleAll_reaches reads undecided parts formed addressable t member
  | .alternation [], formed, _, _, _ => absurd rfl formed.1
  | .alternation (e :: rest), formed, addressable, t, member => by
    obtain ⟨place, inside, reached⟩ :=
      sampleAt_reaches reads undecided (e :: rest) formed.2 addressable.2 t member
    exact (Random.belowLength_reaches reads (Random.canPick addressable.1 inside)).bind reached

theorem sampleAll_reaches (reads : IsTape tape) (undecided : settings.Undecided) : ∀ es : List Expr,
    AreFormed es → AllEvery (fun _ => True) (· ≤ UInt64.size) es →
      ∀ t ∈ productOver (Counts.within settings) es, Reaches tape (sampleAll settings es) t
  | [], _, _, t, member => (Language.mem_one t).mp member ▸ reaches_pure []
  | e :: rest, formed, addressable, _, member => by
    obtain ⟨u, first, v, others, rfl⟩ := Language.mem_mul.mp member
    exact (sample_reaches reads undecided e formed.1 addressable.1 u first).bind
      (sampleAll_reaches reads undecided rest formed.2 addressable.2 v others).map

theorem sampleAt_reaches (reads : IsTape tape) (undecided : settings.Undecided) : ∀ es : List Expr,
    AreFormed es → AllEvery (fun _ => True) (· ≤ UInt64.size) es →
      ∀ t ∈ sumOver (Counts.within settings) es,
        ∃ place < es.length, Reaches tape (sampleAt settings es place) t
  | [], _, _, _, member => absurd member (Language.notMem_zero _)
  | e :: rest, formed, addressable, t, member => by
    rcases (Language.mem_add ..).mp member with first | others
    · exact ⟨0, Nat.succ_pos _, sample_reaches reads undecided e formed.1 addressable.1 t first⟩
    · obtain ⟨place, inside, reached⟩ :=
        sampleAt_reaches reads undecided rest formed.2 addressable.2 t others
      exact ⟨place + 1, Nat.succ_lt_succ inside, reached⟩

end

theorem languageOver_within (e : Expr) (unsaturated : e.Unsaturated settings) :
    e.languageOver (Counts.within settings) = e.languageOver (Counts.drawn settings) := by
  ext t
  constructor
  · exact e.languageOver_mono (fun _ _ => And.left) t
  · exact languageOver_subset (fun _ => Counts.Fits.drawn_subset_within) e unsaturated t

end Expr

/-! ## Patterns -/

theorem draw_reaches (reads : IsTape tape) {p : Pattern} (undecided : p.settings.Undecided)
    (formed : p.expr.Formed) (addressable : p.expr.Addressable) {t : String}
    (member : t.toList ∈ p.expr.languageOver (Counts.within p.settings)) :
    Reaches tape p.draw t := by
  have reached := (p.expr.sample_reaches reads undecided formed addressable t.toList member).map
    (f := String.ofList)
  rwa [String.ofList_toList] at reached

/-- If an optional part may appear and may be left out, the texts that some sequence of words leads to are
exactly those made up by choosing, at each place of the expression, a member of the class, a branch or a
number of repetitions. Those numbers fill the interval of the bounds, cut where 32 bits end; where no interval
reaches that far nothing is cut. -/
theorem exists_draw_iff {text : String} {settings : Settings} {p : Pattern}
    (read : ofText text settings = .ok p) (undecided : settings.Undecided)
    (addressable : p.expr.Addressable) :
    (∀ t : String, (∃ s s' : Random.Stream, p.draw.runFrom s = (.ok t, s')) ↔
      t.toList ∈ p.expr.languageOver (Counts.within settings)) ∧
    (p.expr.Unsaturated settings →
      p.expr.languageOver (Counts.within settings) = p.expr.languageOver (Counts.drawn settings)) := by
  obtain ⟨-, rfl, formed⟩ := ofText_eq_ok read
  refine ⟨fun t => ⟨fun ⟨s, s', run⟩ => draw_yields_within formed run, fun member => ?_⟩,
    p.expr.languageOver_within⟩
  have reached := draw_reaches Random.Tape.isTape undecided formed addressable member
  obtain ⟨word, left, run⟩ := Random.exists_stream (p.draw_alike Random.Tape.sameWords) reached
  exact ⟨_, left, run⟩

/-- A choice between two letters and an optional one with two or more characters behind it: the first branch is
drawn from some words, and so are two characters behind the optional letter and without it. -/
theorem exists_draw_iff_choice :
    ∃ p, ofText "yz|x?.\x7b2,\x7d" .initial = .ok p ∧
      (∃ s s' : Random.Stream, p.draw.runFrom s = (.ok "yz", s')) ∧
      (∃ s s' : Random.Stream, p.draw.runFrom s = (.ok "x√a", s')) ∧
      ∃ s s' : Random.Stream, p.draw.runFrom s = (.ok "√a", s') := by
  have read : ofText "yz|x?.\x7b2,\x7d" .initial = .ok ⟨"yz|x?.\x7b2,\x7d",
      .alternation [.literal ['y', 'z'], .concat [.repetition .optional true (.literal ['x']),
        .repetition ⟨2, none, by simp⟩ true (.class .characters ⟨[(0, 9), (11, 0x10FFFF)]⟩)]],
      .initial⟩ := rfl
  have undecided : Settings.initial.Undecided := by
    intro outcome
    cases outcome with
    | false => exact ⟨⟨fun _ => 0xFFFFFFFFFFFFFFFF, 0⟩, _, rfl⟩
    | true => exact ⟨⟨fun _ => 0, 0⟩, _, rfl⟩
  obtain ⟨drawn, uncut⟩ := exists_draw_iff read undecided
    ⟨by decide, trivial, ⟨⟨trivial, trivial⟩, ⟨trivial, trivial⟩, trivial⟩, trivial⟩
  have one : Counts.optional.Fits .initial := fun unbounded => absurd unbounded (by decide)
  rw [uncut ⟨trivial, trivial, ⟨⟨one, trivial⟩, ⟨fun _ _ => by decide, trivial⟩, trivial⟩, trivial⟩] at drawn
  have two : 2 ∈ Counts.drawn .initial ⟨2, none, by simp⟩ := by simp [Counts.drawn, Settings.initial]
  have behind : ['√', 'a'] ∈ (Expr.concat [.repetition ⟨2, none, by simp⟩ true
      (.class .characters ⟨[(0, 9), (11, 0x10FFFF)]⟩)]).languageOver (Counts.drawn .initial) := by
    refine Language.mem_mul.mpr ⟨['√', 'a'], ⟨2, two, ?_⟩, [], Language.nil_mem_one, rfl⟩
    refine Language.mem_pow.mpr ⟨[['√'], ['a']], rfl, rfl, ?_⟩
    simp only [List.forall_mem_cons, Expr.mem_languageOver_class]
    exact ⟨⟨'√', by decide, rfl⟩, ⟨'a', by decide, rfl⟩, List.forall_mem_nil _⟩
  refine ⟨_, read, (drawn _).mpr (.inl rfl), (drawn _).mpr (.inr (.inl ?_)), (drawn _).mpr (.inr (.inl ?_))⟩
  · refine Language.mem_mul.mpr ⟨['x'], ⟨1, ⟨Nat.zero_le 1, Nat.le_refl 1⟩, ?_⟩, _, behind, rfl⟩
    rw [pow_one]
    rfl
  · have none := Language.nil_mem_one (α := Char)
    exact Language.mem_mul.mpr ⟨[], ⟨0, ⟨Nat.le_refl 0, Nat.zero_le 1⟩, none⟩, _, behind, rfl⟩

end MockSchema.Pattern
