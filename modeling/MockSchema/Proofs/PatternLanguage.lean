import Mathlib.Computability.Language
import MockSchema.Proofs.Draws
import MockSchema.Proofs.PatternForm

/-!
# The language of a pattern

Every text drawn from a compiled pattern is one of the pattern's language, and its numbers of repetitions lie
in the intervals they are drawn from (`sample_yields`). A draw never looks at the
places between characters, so conditions on places, and classes without members too, stand for the empty
text in that language. Where an expression has neither, its language is what it matches
(`matchesIn_of_mem_language`), whatever the conditions may mean.
-/

namespace MockSchema.Pattern

open Gen

/-! ## Counts -/

/-- The numbers of repetitions that the bounds allow. -/
def Counts.allowed (counts : Counts) : Set Nat :=
  {n | counts.min.toNat ≤ n ∧ ∀ m ∈ counts.max, n ≤ m.toNat}

/-- The numbers of repetitions that can be drawn. Without an upper bound there is a limit; it is counted
from the lower bound only where that is above one. -/
def Counts.drawn (settings : Settings) (counts : Counts) : Set Nat :=
  match counts.max with
  | some m => Set.Icc counts.min.toNat m.toNat
  | none =>
    if counts.min = 0 then Set.Ico 0 settings.maxRepeat.toNat
    else if counts.min = 1 then Set.Ico 1 settings.maxRepeat.toNat
    else Set.Ico counts.min.toNat (counts.min.toNat + settings.maxRepeat.toNat)

theorem Counts.drawn_subset_allowed (settings : Settings) (counts : Counts) :
    counts.drawn settings ⊆ counts.allowed := by
  intro n member
  unfold drawn at member
  unfold allowed
  split at member
  · next m bounded =>
    simp only [Set.mem_Icc] at member
    simp [bounded, member]
  · next unbounded =>
    simp only [Set.mem_ofPred_eq, unbounded, Option.mem_def, reduceCtorEq, false_implies,
      implies_true, and_true]
    split at member
    · next least => simp [least]
    · split at member
      · next least => simpa [least] using member.1
      · exact member.1

/-- The numbers that are drawn and do not leave 32 bits. Only without an upper bound there may be others. -/
def Counts.within (settings : Settings) (counts : Counts) : Set Nat :=
  {n ∈ counts.drawn settings | counts.max = none → n < UInt32.size - 1}

/-- The interval that numbers are drawn from is cut where 32 bits end, and nowhere else. -/
theorem mem_within_iff (settings : Settings) (counts : Counts) (n : Nat) :
    n ∈ counts.within settings ↔
      (countBounds settings counts).1 ≤ n ∧ n ≤ (countBounds settings counts).2 := by
  have limit := settings.two_le_maxRepeat
  have word := settings.maxRepeat.toNat_lt
  unfold Counts.within Counts.drawn countBounds
  rcases bound : counts.max with _ | m
  · simp only [UInt32.size, forall_const]
    by_cases zero : counts.min = 0
    · simp only [zero, UInt32.toNat_zero, Nat.zero_le, if_true, Set.mem_ofPred_eq, Set.mem_Ico,
        true_and]
      omega
    by_cases one : counts.min = 1
    · have another : ¬ (1 : UInt32) = 0 := by decide
      simp only [one, another, UInt32.toNat_one, Nat.le_refl, if_true, if_false, Set.mem_ofPred_eq,
        Set.mem_Ico]
      omega
    · have large : ¬ counts.min.toNat ≤ 1 := by
        rw [← UInt32.toNat_inj, UInt32.toNat_zero] at zero
        rw [← UInt32.toNat_inj, UInt32.toNat_one] at one
        omega
      have cut := Nat.lt_min (a := n) (b := counts.min.toNat + settings.maxRepeat.toNat)
        (c := 4294967296 - 1)
      simp only [zero, one, large, if_false, Set.mem_ofPred_eq, Set.mem_Ico]
      change _ ↔ counts.min.toNat ≤ n ∧ n ≤ min (counts.min.toNat + settings.maxRepeat.toNat) _ - 1
      omega
  · simp

variable {σ : Type} [RandomSource σ]

theorem drawCount_yields_within (settings : Settings) (counts : Counts) :
    (drawCount settings counts : Gen σ Nat).Yields (· ∈ counts.within settings) := by
  unfold drawCount
  split
  · next part =>
    subst part
    refine Yields.map (P := fun _ => True) (fun _ _ _ _ => trivial) fun b _ => ?_
    cases b <;> simp [Counts.within, Counts.drawn, Counts.optional]
  · exact (Random.between32_yields _ _).mono fun n between =>
      (mem_within_iff settings counts n).mpr between

theorem drawCount_yields (settings : Settings) (counts : Counts) :
    (drawCount settings counts : Gen σ Nat).Yields (· ∈ counts.drawn settings) :=
  (drawCount_yields_within settings counts).mono fun _ => And.left

/-! ## Languages -/

namespace Expr

mutual

/-- The texts of an expression in which every repetition has one of the given numbers of repetitions. -/
def languageOver (numbers : Counts → Set Nat) : Expr → Language Char
  | .empty => 1
  | .literal s => {s}
  | .class _ set => if set.isEmpty then 1 else {t | ∃ c : Char, set.contains c.toNat ∧ t = [c]}
  | .look _ => 1
  | .repetition counts _ sub => {t | ∃ n ∈ numbers counts, t ∈ sub.languageOver numbers ^ n}
  | .capture _ _ sub => sub.languageOver numbers
  | .concat parts => productOver numbers parts
  | .alternation branches => sumOver numbers branches

def productOver (numbers : Counts → Set Nat) : List Expr → Language Char
  | [] => 1
  | e :: rest => e.languageOver numbers * productOver numbers rest

def sumOver (numbers : Counts → Set Nat) : List Expr → Language Char
  | [] => 0
  | e :: rest => e.languageOver numbers + sumOver numbers rest

end

theorem mem_languageOver_class {numbers : Counts → Set Nat} {alphabet : Alphabet} {set : CharSet}
    {t : List Char} : t ∈ (Expr.class alphabet set).languageOver numbers ↔
      if set.isEmpty then t = [] else ∃ c : Char, set.contains c.toNat ∧ t = [c] := by
  unfold languageOver
  cases set.isEmpty <;> exact Iff.rfl

/-- The texts of an expression. -/
def language (e : Expr) : Language Char := e.languageOver Counts.allowed

/-- A power of a language contains a text with every repetition taken from a larger one. -/
theorem pow_subset_pow {l m : Language Char} (le : ∀ t ∈ l, t ∈ m) (n : Nat) :
    ∀ t ∈ l ^ n, t ∈ m ^ n := by
  intro t member
  obtain ⟨texts, rfl, length, each⟩ := Language.mem_pow.mp member
  exact Language.mem_pow.mpr ⟨texts, rfl, length, fun u listed => le u (each u listed)⟩

mutual

/-- Conditions on the counts of all repetitions and the numbers of branches of all choices. -/
def Every (counted : Counts → Prop) (branched : Nat → Prop) : Expr → Prop
  | .repetition counts _ sub => counted counts ∧ sub.Every counted branched
  | .capture _ _ sub => sub.Every counted branched
  | .concat parts => AllEvery counted branched parts
  | .alternation branches => branched branches.length ∧ AllEvery counted branched branches
  | _ => True

def AllEvery (counted : Counts → Prop) (branched : Nat → Prop) : List Expr → Prop
  | [] => True
  | e :: rest => e.Every counted branched ∧ AllEvery counted branched rest

end

mutual

theorem every_true : ∀ e : Expr, e.Every (fun _ => True) fun _ => True
  | .repetition _ _ sub => ⟨trivial, every_true sub⟩
  | .capture _ _ sub => every_true sub
  | .concat parts => allEvery_true parts
  | .alternation branches => ⟨trivial, allEvery_true branches⟩
  | .empty | .literal _ | .class .. | .look _ => trivial

theorem allEvery_true : ∀ es : List Expr, AllEvery (fun _ => True) (fun _ => True) es
  | [] => trivial
  | e :: rest => ⟨every_true e, allEvery_true rest⟩

end

section

variable {few many : Counts → Set Nat} {counted : Counts → Prop} {branched : Nat → Prop}

mutual

/-- More numbers of repetitions, wherever there is one, give more texts. -/
theorem languageOver_subset (le : ∀ c, counted c → few c ⊆ many c) : ∀ e : Expr,
    e.Every counted branched → ∀ t ∈ e.languageOver few, t ∈ e.languageOver many
  | .empty, _, _, member => member
  | .literal _, _, _, member => member
  | .class .., _, _, member => member
  | .look _, _, _, member => member
  | .repetition counts _ sub, every, t, member => by
    obtain ⟨n, number, member⟩ := member
    exact ⟨n, le counts every.1 number,
      pow_subset_pow (languageOver_subset le sub every.2) n t member⟩
  | .capture _ _ sub, every, t, member => languageOver_subset le sub every t member
  | .concat parts, every, t, member => productOver_subset le parts every t member
  | .alternation branches, every, t, member => sumOver_subset le branches every.2 t member

theorem productOver_subset (le : ∀ c, counted c → few c ⊆ many c) : ∀ es : List Expr,
    AllEvery counted branched es → ∀ t ∈ productOver few es, t ∈ productOver many es
  | [], _, _, member => member
  | e :: rest, every, _, member => by
    obtain ⟨u, first, v, others, rfl⟩ := Language.mem_mul.mp member
    exact Language.append_mem_mul (languageOver_subset le e every.1 u first)
      (productOver_subset le rest every.2 v others)

theorem sumOver_subset (le : ∀ c, counted c → few c ⊆ many c) : ∀ es : List Expr,
    AllEvery counted branched es → ∀ t ∈ sumOver few es, t ∈ sumOver many es
  | [], _, _, member => member
  | e :: rest, every, t, member => by
    refine (Language.mem_add ..).mpr ?_
    rcases (Language.mem_add ..).mp member with first | others
    · exact .inl (languageOver_subset le e every.1 t first)
    · exact .inr (sumOver_subset le rest every.2 t others)

end

end

theorem languageOver_mono {few many : Counts → Set Nat} (le : ∀ c, few c ⊆ many c) (e : Expr) :
    ∀ t ∈ e.languageOver few, t ∈ e.languageOver many :=
  languageOver_subset (fun c _ => le c) e e.every_true

end Expr

/-! ## Sampling -/

/-- A class without members gives the empty text, any other class one of its members. -/
theorem drawMember_yields {set : CharSet} (proper : set.Proper) (alphabet : Alphabet)
    (numbers : Counts → Set Nat) :
    (drawMember set : Gen σ (List Char)).Yields
      (· ∈ (Expr.class alphabet set).languageOver numbers) := by
  simp only [Expr.mem_languageOver_class, CharSet.isEmpty_iff_count_eq_zero proper.ends]
  unfold drawMember
  split
  · exact yields_pure rfl
  · refine (Random.below32_yields _).map fun place inside => ?_
    obtain ⟨c, found, member⟩ := CharSet.get?_eq_some proper.ends inside
    exact ⟨c, member, by rw [found, Option.toList_some]⟩

namespace Expr

mutual

theorem sample_yields (settings : Settings) : ∀ e : Expr, e.Formed →
    (e.sample settings : Gen σ (List Char)).Yields
      (· ∈ e.languageOver (Counts.within settings))
  | .empty, _ => yields_pure Language.nil_mem_one
  | .look _, _ => yields_pure Language.nil_mem_one
  | .literal _, _ => yields_pure rfl
  | .class alphabet _, formed => drawMember_yields formed alphabet _
  | .repetition counts _ sub, formed => by
    refine (drawCount_yields_within settings counts).bind fun n number => ?_
    refine ((sample_yields settings sub formed).times n).map fun texts drawn => ?_
    exact ⟨n, number, Language.mem_pow.mpr ⟨texts, rfl, drawn.1, drawn.2⟩⟩
  | .capture _ _ sub, formed => sample_yields settings sub formed
  | .concat parts, formed => sampleAll_yields settings parts formed
  | .alternation [], formed => absurd rfl formed.1
  | .alternation (e :: rest), formed => by
    refine (Random.belowLength_yields _).bind fun place inside => ?_
    exact sampleAt_yields settings (e :: rest) place formed.2 inside

theorem sampleAll_yields (settings : Settings) : ∀ es : List Expr, AreFormed es →
    (sampleAll settings es : Gen σ (List Char)).Yields
      (· ∈ productOver (Counts.within settings) es)
  | [], _ => yields_pure Language.nil_mem_one
  | e :: rest, formed => by
    refine (sample_yields settings e formed.1).bind fun s first => ?_
    refine (sampleAll_yields settings rest formed.2).map fun t others => ?_
    exact Language.append_mem_mul first others

theorem sampleAt_yields (settings : Settings) : ∀ (es : List Expr) (place : Nat), AreFormed es →
    place < es.length →
    (sampleAt settings es place : Gen σ (List Char)).Yields
      (· ∈ sumOver (Counts.within settings) es)
  | [], _, _, inside => absurd inside (Nat.not_lt_zero _)
  | e :: _, 0, formed, _ => (sample_yields settings e formed.1).mono fun _ => .inl
  | _ :: rest, place + 1, formed, inside =>
    (sampleAt_yields settings rest place formed.2 (Nat.lt_of_succ_lt_succ inside)).mono
      fun _ => .inr

end

/-! ## Matches -/

/-- A text that is made up of a number of matches, one behind the other. -/
def Repeats (Matches : List Char → List Char → List Char → Prop) :
    Nat → List Char → List Char → List Char → Prop
  | 0, _, t, _ => t = []
  | n + 1, before, t, after =>
    ∃ u v, t = u ++ v ∧ Matches before u (v ++ after) ∧ Repeats Matches n (before ++ u) v after

section Matches

variable (holds : Look → List Char → List Char → Prop)

mutual

/-- The expression matches a text between what stands before and after it. A class matches its members
alone, and what a condition on a place asks for is left open. -/
def MatchesIn : Expr → List Char → List Char → List Char → Prop
  | .empty, _, t, _ => t = []
  | .literal s, _, t, _ => t = s
  | .class _ set, _, t, _ => ∃ c : Char, set.contains c.toNat ∧ t = [c]
  | .look kind, before, t, after => t = [] ∧ holds kind before after
  | .repetition counts _ sub, before, t, after =>
    ∃ n ∈ counts.allowed, Repeats sub.MatchesIn n before t after
  | .capture _ _ sub, before, t, after => sub.MatchesIn before t after
  | .concat parts, before, t, after => AllMatchIn parts before t after
  | .alternation branches, before, t, after => OneMatchesIn branches before t after

def AllMatchIn : List Expr → List Char → List Char → List Char → Prop
  | [], _, t, _ => t = []
  | e :: rest, before, t, after =>
    ∃ u v, t = u ++ v ∧ e.MatchesIn before u (v ++ after) ∧ AllMatchIn rest (before ++ u) v after

def OneMatchesIn : List Expr → List Char → List Char → List Char → Prop
  | [], _, _, _ => False
  | e :: rest, before, t, after => e.MatchesIn before t after ∨ OneMatchesIn rest before t after

end

/-- The expression matches a text from its first to its last character. -/
def FullyMatches (e : Expr) (t : List Char) : Prop := e.MatchesIn holds [] t []

end Matches

mutual

/-- No condition on a place and no class without members. -/
def IsPlain : Expr → Prop
  | .class _ set => ¬ set.isEmpty
  | .look _ => False
  | .repetition _ _ sub => sub.IsPlain
  | .capture _ _ sub => sub.IsPlain
  | .concat parts => ArePlain parts
  | .alternation branches => ArePlain branches
  | _ => True

def ArePlain : List Expr → Prop
  | [] => True
  | e :: rest => e.IsPlain ∧ ArePlain rest

end

/-- What is matched between any two texts can be repeated between any two texts. -/
theorem repeats_of_mem_pow {l : Language Char}
    {Matches : List Char → List Char → List Char → Prop}
    (matched : ∀ t ∈ l, ∀ before after, Matches before t after) (n : Nat) :
    ∀ t ∈ l ^ n, ∀ before after, Repeats Matches n before t after := by
  induction n with
  | zero => exact fun t member _ _ => member
  | succ n ih =>
    intro t member before after
    rw [pow_succ'] at member
    obtain ⟨u, first, v, others, rfl⟩ := Language.mem_mul.mp member
    exact ⟨u, v, rfl, matched u first before (v ++ after), ih v others (before ++ u) after⟩

section Plain

variable (holds : Look → List Char → List Char → Prop)

mutual

/-- A plain expression matches the texts of its language wherever they stand. -/
theorem matchesIn_of_mem_language : ∀ e : Expr, e.IsPlain → ∀ t ∈ e.language,
    ∀ before after, e.MatchesIn holds before t after
  | .empty, _, _, member, _, _ => member
  | .literal _, _, _, member, _, _ => member
  | .class _ set, plain, t, member, _, _ => by
    simp only [IsPlain, Bool.not_eq_true] at plain
    simp only [language, languageOver, plain, Bool.false_eq_true] at member
    exact member
  | .look _, plain, _, _, _, _ => absurd plain id
  | .repetition counts _ sub, plain, t, member, before, after => by
    obtain ⟨n, number, member⟩ := member
    exact ⟨n, number,
      repeats_of_mem_pow (matchesIn_of_mem_language sub plain) n t member before after⟩
  | .capture _ _ sub, plain, t, member, before, after =>
    matchesIn_of_mem_language sub plain t member before after
  | .concat parts, plain, t, member, before, after =>
    allMatchIn_of_mem_product parts plain t member before after
  | .alternation branches, plain, t, member, before, after =>
    oneMatchesIn_of_mem_sum branches plain t member before after

theorem allMatchIn_of_mem_product : ∀ es : List Expr, ArePlain es →
    ∀ t ∈ productOver Counts.allowed es, ∀ before after, AllMatchIn holds es before t after
  | [], _, _, member, _, _ => member
  | e :: rest, plain, _, member, before, after => by
    obtain ⟨u, first, v, others, rfl⟩ := Language.mem_mul.mp member
    exact ⟨u, v, rfl, matchesIn_of_mem_language e plain.1 u first before (v ++ after),
      allMatchIn_of_mem_product rest plain.2 v others (before ++ u) after⟩

theorem oneMatchesIn_of_mem_sum : ∀ es : List Expr, ArePlain es →
    ∀ t ∈ sumOver Counts.allowed es, ∀ before after, OneMatchesIn holds es before t after
  | [], _, _, member, _, _ => absurd member (Language.notMem_zero _)
  | e :: rest, plain, t, member, before, after => by
    rcases (Language.mem_add ..).mp member with first | others
    · exact .inl (matchesIn_of_mem_language e plain.1 t first before after)
    · exact .inr (oneMatchesIn_of_mem_sum rest plain.2 t others before after)

end

end Plain

end Expr

/-! ## Texts of patterns -/

/-- A text drawn from a pattern is made up with numbers of repetitions within 32 bits. -/
theorem draw_yields_within {p : Pattern} (formed : p.expr.Formed) :
    (p.draw : Gen σ String).Yields
      fun t => t.toList ∈ p.expr.languageOver (Counts.within p.settings) :=
  (p.expr.sample_yields p.settings formed).map fun t member => by
    rwa [String.toList_ofList]

theorem draw_yields {p : Pattern} (formed : p.expr.Formed) :
    (p.draw : Gen σ String).Yields
      fun t => t.toList ∈ p.expr.languageOver (Counts.drawn p.settings) :=
  (draw_yields_within formed).mono fun t member =>
    p.expr.languageOver_mono (fun _ _ => And.left) t.toList member

/-- A text drawn from a compiled pattern is of the pattern's language, and already of the smaller one in
which every number of repetitions can be drawn. Without conditions on places and empty classes the pattern
matches the text as a whole. Each number of repetitions lies in the interval of its bounds. -/
theorem draw_mem_language {text : String} {settings : Settings} {p : Pattern}
    (read : ofText text settings = .ok p) {s s' : σ} {t : String}
    (run : (p.draw : Gen σ String).runFrom s = (.ok t, s')) :
    t.toList ∈ p.expr.language ∧
      t.toList ∈ p.expr.languageOver (Counts.drawn settings) ∧
      (p.expr.IsPlain → ∀ holds, p.expr.FullyMatches holds t.toList) ∧
      ∀ counts, (drawCount settings counts : Gen σ Nat).Yields (· ∈ counts.drawn settings) := by
  obtain ⟨-, rfl, formed⟩ := ofText_eq_ok read
  have drawn := draw_yields formed run
  have member := Expr.languageOver_mono (Counts.drawn_subset_allowed p.settings) p.expr _ drawn
  refine ⟨member, drawn, fun plain holds => ?_, drawCount_yields p.settings⟩
  exact p.expr.matchesIn_of_mem_language holds plain _ member [] []

/-- A group with at least one repetition, drawn with two. -/
theorem draw_mem_language_twice :
    ∃ p s', ofText "(?:ab)+" .initial = .ok p ∧
      (p.draw : Gen Random.Stream String).runFrom (.cycle #[0x20000000]) = (.ok "abab", s') ∧
      "abab".toList ∈ p.expr.language ∧ ∀ holds, p.expr.FullyMatches holds "abab".toList := by
  have read : ofText "(?:ab)+" .initial =
      .ok ⟨"(?:ab)+", .repetition .atLeastOne true (.literal ['a', 'b']), .initial⟩ := rfl
  have run : (Pattern.draw ⟨"(?:ab)+", .repetition .atLeastOne true (.literal ['a', 'b']), .initial⟩ :
      Gen Random.Stream String).runFrom (.cycle #[0x20000000]) =
        (.ok "abab", ⟨(Random.Stream.cycle #[0x20000000]).word, 1⟩) := rfl
  obtain ⟨language, -, whole, -⟩ := draw_mem_language read run
  exact ⟨_, _, read, run, language, whole trivial⟩

end MockSchema.Pattern
