import MockSchema.Proofs.Simulation
import MockSchema.Proofs.Totality

/-!
# Words written in advance

A tape is a state that gives the words written on it. `Reaches` says that a result can be had by writing
words in front of any tape, so results can be had one after the other; `CanFail` says that some words lead
to a failure. Every draw is `Decided`: it can have a result, or it can fail. A failure that waits behind
other draws is therefore reached, unless an earlier one comes first. What is reached on a tape is drawn from a
sequence of words that begins as the tape does (`exists_stream`).
-/

namespace MockSchema

/-- Words on a list are given one by one, short words as the low halves of long ones. -/
structure IsTape {σ : Type} [RandomSource σ] (tape : List UInt64 → σ) : Prop where
  next32 : ∀ word rest, RandomSource.next32 (tape (word :: rest)) = (word.toUInt32, tape rest)
  next64 : ∀ word rest, RandomSource.next64 (tape (word :: rest)) = (word, tape rest)
  bytes : ∀ count, ∃ bytes, ∀ rest, ∃ words,
    RandomSource.bytes count (tape words) = (bytes, tape rest)

namespace Gen

variable {σ α β γ : Type} {tape : List UInt64 → σ}

/-- In front of every tape there are words that lead to the result and leave the tape. -/
def Reaches (tape : List UInt64 → σ) (g : Gen σ α) (a : α) : Prop :=
  ∀ rest, ∃ words, g.runFrom (tape words) = (.ok a, tape rest)

def CanFail (tape : List UInt64 → σ) (g : Gen σ α) : Prop :=
  ∃ words e s, g.runFrom (tape words) = (.error e, s)

def Decided (tape : List UInt64 → σ) (g : Gen σ α) : Prop :=
  (∃ a, Reaches tape g a) ∨ CanFail tape g

section

variable {g : Gen σ α} {f : α → Gen σ β} {a : α} {b : β}

theorem reaches_pure (a : α) : Reaches tape (pure a) a := fun rest => ⟨rest, rfl⟩

theorem canFail_fail (e : Failure) : CanFail tape (fail e : Gen σ α) := ⟨[], e, _, rfl⟩

theorem reaches_step {f : σ → α × σ} (h : ∀ rest, ∃ words, f (tape words) = (a, tape rest)) :
    Reaches tape (step f) a := by
  intro rest
  obtain ⟨words, read⟩ := h rest
  exact ⟨words, by rw [runFrom_step, read]⟩

/-- The words for the second result are written first, those for the first one in front of them. -/
theorem Reaches.bind (hg : Reaches tape g a) (hf : Reaches tape (f a) b) :
    Reaches tape (g >>= f) b := by
  intro rest
  obtain ⟨middle, run'⟩ := hf rest
  obtain ⟨words, run⟩ := hg middle
  exact ⟨words, (runFrom_bind_eq_ok_iff ..).mpr ⟨a, tape middle, run, run'⟩⟩

theorem Reaches.map {f : α → β} (hg : Reaches tape g a) : Reaches tape (do return f (← g)) (f a) :=
  hg.bind (reaches_pure _)

theorem CanFail.bind (hg : CanFail tape g) : CanFail tape (g >>= f) := by
  obtain ⟨words, e, s, run⟩ := hg
  exact ⟨words, e, s, by rw [runFrom_bind, run]⟩

theorem Reaches.canFail (hg : Reaches tape g a) (hf : CanFail tape (f a)) :
    CanFail tape (g >>= f) := by
  obtain ⟨middle, e, s, run'⟩ := hf
  obtain ⟨words, run⟩ := hg middle
  exact ⟨words, e, s, by rw [runFrom_bind, run]; exact run'⟩

theorem Reaches.decided (hg : Reaches tape g a) : Decided tape g := .inl ⟨a, hg⟩

theorem CanFail.decided (hg : CanFail tape g) : Decided tape g := .inr hg

theorem decided_pure (a : α) : Decided tape (pure a : Gen σ α) := (reaches_pure a).decided

theorem Decided.bind (hg : Decided tape g) (hf : ∀ a, Decided tape (f a)) :
    Decided tape (g >>= f) := by
  rcases hg with ⟨a, hg⟩ | hg
  · rcases hf a with ⟨b, hf⟩ | hf
    · exact (hg.bind hf).decided
    · exact (hg.canFail hf).decided
  · exact hg.bind.decided

theorem Decided.map {f : α → β} (hg : Decided tape g) : Decided tape (do return f (← g)) :=
  hg.bind fun _ => decided_pure _

/-- The words for a number of results are those for each, one behind the other. -/
theorem Reaches.times {as : List α} (hg : ∀ a ∈ as, Reaches tape g a) :
    Reaches tape (times g as.length) as := by
  induction as with
  | nil => exact reaches_pure []
  | cons a rest ih =>
    obtain ⟨first, others⟩ := List.forall_mem_cons.mp hg
    exact first.bind (ih others).map

theorem Decided.times (hg : Decided tape g) (n : Nat) : Decided tape (times g n) := by
  induction n with
  | zero => exact decided_pure []
  | succ n ih => exact hg.bind fun _ => ih.map

theorem decided_each {f : γ → Gen σ α} (h : ∀ c, Decided tape (f c)) (cs : List γ) :
    Decided tape (each f cs) := by
  induction cs with
  | nil => exact decided_pure []
  | cons c rest ih => exact (h c).bind fun _ => ih.map

/-- A failure behind a draw is reached, or that draw fails itself. -/
theorem Decided.canFail (hg : Decided tape g) (hf : ∀ a, CanFail tape (f a)) :
    CanFail tape (g >>= f) := by
  rcases hg with ⟨a, hg⟩ | hg
  · exact hg.canFail (hf a)
  · exact hg.bind

theorem CanFail.times (hg : CanFail tape g) {n : Nat} (some : 0 < n) : CanFail tape (times g n) := by
  cases n with
  | zero => exact absurd some (Nat.lt_irrefl 0)
  | succ n => exact hg.bind

theorem canFail_each {f : γ → Gen σ α} (decided : ∀ c, Decided tape (f c)) {c : γ} {cs : List γ}
    (member : c ∈ cs) (fails : CanFail tape (f c)) : CanFail tape (each f cs) := by
  induction cs with
  | nil => cases member
  | cons d rest ih =>
    rcases List.mem_cons.mp member with rfl | behind
    · exact fails.bind
    · exact (decided d).canFail fun _ => (ih behind).bind

end

end Gen

namespace Random

open Gen

variable {σ : Type} {tape : List UInt64 → σ}

/-! ## Tapes -/

/-- Words that are given one by one, zeros behind the last one. -/
structure Tape where
  words : List UInt64

def Tape.next (t : Tape) : UInt64 × Tape :=
  match t.words with
  | [] => (0, t)
  | word :: rest => (word, ⟨rest⟩)

instance : RandomSource Tape := viaWords Tape.next

/-- Filling bytes takes a number of words; zeros will do. -/
theorem fillFrom_tape (next : Tape → Nat × Tape) (none : next ⟨[]⟩ = (0, ⟨[]⟩))
    (zero : ∀ rest, next ⟨0 :: rest⟩ = (0, ⟨rest⟩)) (size words count : Nat) (rest : List UInt64) :
    fillFrom size next words count ⟨List.replicate words 0 ++ rest⟩ =
      ((fillFrom size next words count ⟨[]⟩).1, ⟨rest⟩) := by
  induction words generalizing count with
  | zero => rfl
  | succ words ih =>
    simp only [fillFrom, List.replicate_succ, List.cons_append, none, zero, ih]

theorem Tape.isTape : IsTape Tape.mk where
  next32 _ _ := rfl
  next64 _ _ := rfl
  bytes count := ⟨(RandomSource.bytes count (Tape.mk [])).1, fun rest =>
    ⟨List.replicate ((count + 8 - 1) / 8) 0 ++ rest,
      fillFrom_tape (fun t => let (w, t') := t.next; (w.toNat, t')) rfl (fun _ => rfl) 8 _ count rest⟩⟩

/-- The words of a sequence from its place on are those of a tape. -/
def Tape.StandsIn (t : Tape) (s : Stream) : Prop := ∀ i, s.word (s.place + i) = t.words.getD i 0

theorem Tape.StandsIn.next {t : Tape} {s : Stream} (stands : t.StandsIn s) :
    t.next.1 = s.word s.place ∧ t.next.2.StandsIn ⟨s.word, s.place + 1⟩ := by
  obtain ⟨words⟩ := t
  have first := stands 0
  cases words with
  | nil => exact ⟨first.symm, fun i => (Nat.add_assoc ..).symm ▸ stands (1 + i)⟩
  | cons word rest =>
    refine ⟨first.symm, fun i => ?_⟩
    have later := stands (i + 1)
    rwa [Nat.add_comm i, ← Nat.add_assoc, Nat.add_comm 1] at later

theorem Tape.sameWords : SameWords Tape.StandsIn :=
  @sameWords_viaWords Tape Stream Tape.StandsIn Tape.next
    (fun s => (s.word s.place, ⟨s.word, s.place + 1⟩)) fun _ _ => Tape.StandsIn.next

/-- What is reached on a tape is drawn from states of any kind that can begin with the words of a tape. -/
theorem exists_words {τ α : Type} {R : Tape → τ → Prop} (start : (Nat → UInt64) → τ)
    (stands : ∀ words : List UInt64, R ⟨words⟩ (start fun i => words.getD i 0)) {g : Gen Tape α}
    {g' : Gen τ α} {a : α} (alike : Alike R g g') (reached : Reaches Tape.mk g a) :
    ∃ (word : Nat → UInt64) (left : τ), g'.runFrom (start word) = (.ok a, left) := by
  obtain ⟨words, run⟩ := reached []
  obtain ⟨same, -⟩ := alike ⟨words⟩ _ (stands words)
  rw [run] at same
  exact ⟨_, _, Prod.ext same.symm rfl⟩

/-- What is reached on a tape is drawn from a sequence of words. -/
theorem exists_stream {α : Type} {g : Gen Tape α} {g' : Gen Stream α} {a : α}
    (alike : Alike Tape.StandsIn g g') (reached : Reaches Tape.mk g a) :
    ∃ (word : Nat → UInt64) (left : Stream), g'.runFrom ⟨word, 0⟩ = (.ok a, left) :=
  exists_words (⟨·, 0⟩) (fun words i => by rw [Nat.zero_add]) alike reached

/-! ## Single draws -/

theorem reduce_of_no_carry {width range first : Nat} (none : needsSecond width range first = false)
    (second : Nat) : reduce width range first second = first * range / 2 ^ width := by
  have low : ¬ Nat.pow 2 width - range < first * range % Nat.pow 2 width :=
    of_decide_eq_false none
  unfold reduce
  dsimp only
  rw [if_neg fun carry => low carry.1]
  rfl

/-- Two words are reduced, the second of them only if it is asked for. -/
theorem reduced_tape {width range : Nat} {word : σ → Nat × σ} {first second : Nat} {w v : UInt64}
    (reads : ∀ rest, word (tape (w :: rest)) = (first, tape rest))
    (reads' : ∀ rest, word (tape (v :: rest)) = (second, tape rest)) (rest : List UInt64) :
    ∃ words, reduced width range word (tape words) = (reduce width range first second, tape rest) := by
  cases carry : needsSecond width range first with
  | true => exact ⟨w :: v :: rest, by simp [reduced, reads, reads', carry]⟩
  | false =>
    refine ⟨w :: rest, ?_⟩
    simp only [reduced, reads, carry, reduce_of_no_carry carry]
    rfl

variable [RandomSource σ]

theorem word32_tape (reads : IsTape tape) (word : UInt32) (rest : List UInt64) :
    word32 (tape (word.toUInt64 :: rest)) = (word.toNat, tape rest) := by
  simp [word32, reads.next32]

theorem word64_tape (reads : IsTape tape) (word : UInt64) (rest : List UInt64) :
    word64 (tape (word :: rest)) = (word.toNat, tape rest) := by
  simp [word64, reads.next64]

/-- What two words are reduced to is reached by writing both. -/
theorem reduced32_reaches (reads : IsTape tape) (range : Nat) (first second : UInt32) :
    Reaches tape (step (reduced 32 range word32)) (reduce 32 range first.toNat second.toNat) :=
  reaches_step fun rest => reduced_tape (word32_tape reads first) (word32_tape reads second) rest

theorem reduced64_reaches (reads : IsTape tape) (range : Nat) (first second : UInt64) :
    Reaches tape (step (reduced 64 range word64)) (reduce 64 range first.toNat second.toNat) :=
  reaches_step fun rest => reduced_tape (word64_tape reads first) (word64_tape reads second) rest

/-- Among no more places than there are short words, every place is reached. -/
theorem below32_reaches (reads : IsTape tape) {range place : Nat} (few : range ≤ UInt32.size)
    (inside : place < range) : Reaches tape (below32 range) place := by
  unfold below32
  rw [if_neg (by omega)]
  split
  · next all =>
    refine reaches_step fun rest => ⟨(UInt32.ofNat place).toUInt64 :: rest, ?_⟩
    rw [word32_tape reads, UInt32.toNat_ofNat_of_lt' (all ▸ inside)]
  · obtain ⟨first, word, reached⟩ := exists_first few inside
    have reaches := reduced32_reaches reads range (UInt32.ofNat first) 0
    rw [UInt32.toNat_ofNat_of_lt' word, UInt32.toNat_zero, reduce_zero] at reaches
    exact reached ▸ reaches

theorem below32_decided (reads : IsTape tape) (range : Nat) : Decided tape (below32 range) := by
  unfold below32
  split
  · exact (canFail_fail _).decided
  split
  · exact (reaches_step fun rest => ⟨_, word32_tape reads 0 rest⟩).decided
  · exact (reduced32_reaches reads range 0 0).decided

theorem belowLength_reaches (reads : IsTape tape) {length place : Nat} (picked : CanPick length place) :
    Reaches tape (belowLength length) place := by
  obtain ⟨inside, reached⟩ := picked
  unfold belowLength
  split
  · next short => exact below32_reaches reads short inside
  · by_cases few : length ≤ UInt64.size
    · obtain ⟨first, word, reached⟩ := exists_first few inside
      have reaches := reduced64_reaches reads length (UInt64.ofNat first) 0
      rw [UInt64.toNat_ofNat_of_lt' word, UInt64.toNat_zero, reduce_zero] at reaches
      exact reached ▸ reaches
    · obtain ⟨first, second, reached⟩ := reached (Nat.not_le.mp few)
      exact reached ▸ reduced64_reaches reads length first second

theorem pick_reaches {α : Type} (reads : IsTape tape) {members : List α} {a : α}
    (few : members.length ≤ UInt64.size) (member : a ∈ members) : Reaches tape (pick members) a := by
  obtain ⟨place, inside, rfl⟩ := List.getElem_of_mem member
  refine (belowLength_reaches reads (canPick few inside)).bind ?_
  rw [List.getElem?_eq_getElem inside]
  exact reaches_pure _

theorem belowLength_decided (reads : IsTape tape) (length : Nat) :
    Decided tape (belowLength length) := by
  unfold belowLength
  split
  · exact below32_decided reads length
  · exact (reduced64_reaches reads length 0 0).decided

theorem between32_reaches (reads : IsTape tape) {low high n : Nat} (lower : low ≤ n) (upper : n ≤ high)
    (word : high < UInt32.size) : Reaches tape (between32 low high) n := by
  unfold between32
  rw [if_neg (by omega)]
  have picked : Reaches tape (below32 (high - low + 1)) (n - low) :=
    below32_reaches reads (by omega) (by omega)
  have reached := picked.map (f := (low + ·))
  rwa [Nat.add_sub_cancel' lower] at reached

theorem between32_decided (reads : IsTape tape) (low high : Nat) :
    Decided tape (between32 low high) := by
  unfold between32
  split
  · exact (canFail_fail _).decided
  · exact (below32_decided reads _).map

/-- Every integer between two bounds is what some word is reduced to, with no carry behind it. -/
theorem exists_word64 {low high n : Int64} (lower : low ≤ n) (upper : n ≤ high) :
    ∃ word : UInt64, low + Int64.ofNat
      (reduce 64 (high.toInt - low.toInt + 1).toNat word.toNat (0 : UInt64).toNat) = n := by
  rw [Int64.le_iff_toInt_le] at lower upper
  have least := low.le_toInt
  have greatest := high.toInt_lt
  have few : (high.toInt - low.toInt + 1).toNat ≤ UInt64.size := by
    simp only [UInt64.size]
    omega
  have inside : (n.toInt - low.toInt).toNat < (high.toInt - low.toInt + 1).toNat := by omega
  obtain ⟨first, word, reached⟩ := exists_first few inside
  have index : first * (high.toInt - low.toInt + 1).toNat / 2 ^ 64 =
      (n.toInt - low.toInt).toNat := reached
  refine ⟨UInt64.ofNat first, Int64.toInt_inj.mp ?_⟩
  rw [UInt64.toNat_ofNat_of_lt' word, UInt64.toNat_zero, reduce_zero, index,
    toInt_add_ofNat low high (by omega)]
  omega

/-- Every integer between two bounds can be drawn. -/
theorem between64_reaches (reads : IsTape tape) {low high n : Int64} (lower : low ≤ n)
    (upper : n ≤ high) : Reaches tape (between64 low high) n := by
  unfold between64
  rw [if_neg (Int64.not_lt.mpr (Int64.le_trans lower upper))]
  dsimp only
  split
  · refine reaches_step fun rest => ⟨n.toUInt64 :: rest, ?_⟩
    simp [reads.next64]
  · obtain ⟨word, made⟩ := exists_word64 lower upper
    refine reaches_step fun rest => ?_
    obtain ⟨words, read⟩ := reduced_tape (word64_tape reads word) (word64_tape reads 0) rest
    exact ⟨words, by rw [read, made]⟩

theorem between64_decided (reads : IsTape tape) (low high : Int64) :
    Decided tape (between64 low high) := by
  by_cases order : high < low
  · unfold between64
    rw [if_pos order]
    exact (canFail_fail _).decided
  · exact (between64_reaches reads (Int64.le_refl low) (Int64.not_lt.mp order)).decided

/-- With the word zero the outcome is true wherever it can be. -/
theorem chance_reaches (reads : IsTape tape) {p : Binary64} (probability : p.isProbability = true) :
    Reaches tape (chance p) (decide (0 < p.floorScaled 64)) := by
  unfold chance
  split
  · next certain =>
    subst certain
    exact reaches_pure _
  · rw [if_neg (by simp [probability])]
    refine reaches_step fun rest => ⟨0 :: rest, ?_⟩
    simp [word64_tape reads]

theorem chance_decided (reads : IsTape tape) (p : Binary64) : Decided tape (chance p) := by
  by_cases probability : p.isProbability = true
  · exact (chance_reaches reads probability).decided
  · unfold chance
    split
    · exact decided_pure true
    · rw [if_pos (by simpa using probability)]
      exact (canFail_fail _).decided

theorem word64_decided {α : Type} (reads : IsTape tape) (f : Nat → α) :
    Decided tape (step fun s => (f (word64 s).1, (word64 s).2)) :=
  (reaches_step (a := f 0) fun rest => ⟨0 :: rest, by rw [word64_tape reads]; rfl⟩).decided

theorem betweenFloats_decided (reads : IsTape tape) (low high : Binary64) :
    Decided tape (betweenFloats low high) := by
  unfold betweenFloats
  split
  · exact (canFail_fail _).decided
  · exact word64_decided reads
      fun w => ((Binary64.ofDyadic false (w / 4096) (-52)).mul (high.sub low)).add low

theorem pick_decided {α : Type} (reads : IsTape tape) (members : List α) :
    Decided tape (pick members) := by
  refine (belowLength_decided reads _).bind fun place => ?_
  split
  · exact decided_pure _
  · exact (canFail_fail _).decided

end Random

/-! ## Patterns -/

namespace Pattern

open Gen

variable {σ : Type} [RandomSource σ] {tape : List UInt64 → σ}

theorem drawCount_decided (reads : IsTape tape) (settings : Settings) (counts : Counts) :
    Decided tape (drawCount settings counts) := by
  unfold drawCount
  split
  · exact (Random.chance_decided reads _).map
  · exact Random.between32_decided reads _ _

theorem countBounds_of_isDry (settings : Settings) {counts : Counts} (dry : counts.IsDry) :
    (countBounds settings counts).2 < (countBounds settings counts).1 := by
  obtain ⟨full, unbounded⟩ := dry
  unfold countBounds
  simp only [UInt32.size] at full
  simp only [unbounded, full, UInt32.size]
  rw [if_neg (by omega)]
  have cut : Nat.min (4294967296 - 1 + settings.maxRepeat.toNat) (4294967296 - 1) ≤ 4294967296 - 1 :=
    Nat.min_le_right ..
  dsimp only
  omega

theorem drawCount_canFail (settings : Settings) {counts : Counts} (dry : counts.IsDry) :
    CanFail tape (drawCount settings counts) := by
  have required : counts ≠ .optional := by
    rintro rfl
    cases dry.2
  unfold drawCount Random.between32
  rw [if_neg required]
  dsimp only
  rw [if_pos (countBounds_of_isDry settings dry)]
  exact canFail_fail _

theorem countBounds_lt (settings : Settings) (counts : Counts) :
    (countBounds settings counts).2 < UInt32.size := by
  have limit := settings.maxRepeat.toNat_lt
  unfold countBounds
  rcases counts.max with _ | m
  · simp only [UInt32.size]
    split
    · dsimp only
      omega
    · have cut : Nat.min (counts.min.toNat + settings.maxRepeat.toNat) (4294967296 - 1) ≤
          4294967296 - 1 := Nat.min_le_right ..
      dsimp only
      omega
  · exact m.toNat_lt

theorem countBounds_pos (settings : Settings) {counts : Counts} (wet : ¬ counts.IsDry)
    (some : counts.max ≠ some 0) : 0 < (countBounds settings counts).2 := by
  have order := countBounds_order settings wet
  have limit := settings.two_le_maxRepeat
  unfold countBounds at order ⊢
  rcases bound : counts.max with _ | m
  · simp only [bound] at order ⊢
    split
    · dsimp only
      omega
    · next large =>
      rw [if_neg large] at order
      dsimp only at order ⊢
      omega
  · rw [bound, ne_eq, Option.some.injEq, ← UInt32.toNat_inj] at some
    exact Nat.pos_of_ne_zero some

/-- Where a positive count may be drawn, one can be reached. -/
theorem drawCount_reaches (reads : IsTape tape) (settings : Settings) {counts : Counts}
    (wet : ¬ counts.IsDry) (some : counts.MayRepeat settings) :
    ∃ n, 0 < n ∧ Reaches tape (drawCount settings counts) n := by
  unfold Counts.MayRepeat at some
  unfold drawCount
  split
  · next part =>
    rw [if_pos part] at some
    have reached := Random.chance_reaches reads settings.isProbability
    rw [decide_eq_true some] at reached
    exact ⟨1, Nat.one_pos, reached.map⟩
  · next required =>
    rw [if_neg required] at some
    have order := countBounds_order settings wet
    have positive := countBounds_pos settings wet some
    change ∃ n, 0 < n ∧ Reaches tape
      (Random.between32 (countBounds settings counts).1 (countBounds settings counts).2) n
    exact ⟨max 1 (countBounds settings counts).1, by omega,
      Random.between32_reaches reads (by omega) (by omega) (countBounds_lt settings counts)⟩

theorem drawMember_decided (reads : IsTape tape) (set : CharSet) :
    Decided tape (drawMember set) := by
  unfold drawMember
  split
  · exact decided_pure []
  · exact (Random.below32_decided reads _).map

namespace Expr

mutual

theorem sample_decided (reads : IsTape tape) (settings : Settings) : ∀ e : Expr,
    Decided tape (e.sample settings)
  | .empty => decided_pure []
  | .look _ => decided_pure []
  | .literal s => decided_pure s
  | .class _ set => drawMember_decided reads set
  | .repetition counts _ sub =>
    (drawCount_decided reads settings counts).bind
      fun n => ((sample_decided reads settings sub).times n).map
  | .capture _ _ sub => sample_decided reads settings sub
  | .concat parts => sampleAll_decided reads settings parts
  | .alternation [] => decided_pure []
  | .alternation (e :: rest) =>
    (Random.belowLength_decided reads _).bind fun place => sampleAt_decided reads settings (e :: rest) place

theorem sampleAll_decided (reads : IsTape tape) (settings : Settings) : ∀ es : List Expr,
    Decided tape (sampleAll settings es)
  | [] => decided_pure []
  | e :: rest =>
    (sample_decided reads settings e).bind fun _ => (sampleAll_decided reads settings rest).map

theorem sampleAt_decided (reads : IsTape tape) (settings : Settings) : ∀ (es : List Expr) (place : Nat),
    Decided tape (sampleAt settings es place)
  | [], _ => decided_pure []
  | e :: _, 0 => sample_decided reads settings e
  | _ :: rest, place + 1 => sampleAt_decided reads settings rest place

end

mutual

/-- An expression that stalls can fail: the count without a number to draw is reached, or another failure
comes first. -/
theorem sample_canFail (reads : IsTape tape) (settings : Settings) : ∀ e : Expr, e.Stalls settings →
    CanFail tape (e.sample settings)
  | .repetition counts _ sub, stalls => by
    by_cases dry : counts.IsDry
    · exact (drawCount_canFail settings dry).bind
    · obtain ⟨some, inside⟩ := stalls.resolve_left dry
      obtain ⟨n, positive, reached⟩ := drawCount_reaches reads settings dry some
      exact reached.canFail ((sample_canFail reads settings sub inside).times positive).bind
  | .capture _ _ sub, stalls => sample_canFail reads settings sub stalls
  | .concat parts, stalls => sampleAll_canFail reads settings parts stalls
  | .alternation [], stalls => by
    obtain ⟨place, picked, -⟩ := stalls
    exact absurd picked.1 (Nat.not_lt_zero place)
  | .alternation (e :: rest), stalls => by
    obtain ⟨place, picked, inside⟩ := stalls
    exact (Random.belowLength_reaches reads picked).canFail
      (sampleAt_canFail reads settings (e :: rest) place inside)

theorem sampleAll_canFail (reads : IsTape tape) (settings : Settings) : ∀ es : List Expr,
    OneStalls settings es → CanFail tape (sampleAll settings es)
  | e :: rest, stalls => by
    rcases stalls with first | others
    · exact (sample_canFail reads settings e first).bind
    · exact (sample_decided reads settings e).canFail
        fun _ => (sampleAll_canFail reads settings rest others).bind

theorem sampleAt_canFail (reads : IsTape tape) (settings : Settings) : ∀ (es : List Expr)
    (place : Nat), StallsAt settings es place → CanFail tape (sampleAt settings es place)
  | e :: _, 0, stalls => sample_canFail reads settings e stalls
  | _ :: rest, place + 1, stalls => sampleAt_canFail reads settings rest place stalls

end

end Expr

theorem draw_decided (reads : IsTape tape) (p : Pattern) : Decided tape p.draw :=
  (p.expr.sample_decided reads p.settings).map

theorem draw_canFail (reads : IsTape tape) {p : Pattern} (stalls : p.Stalls) :
    CanFail tape p.draw :=
  (p.expr.sample_canFail reads p.settings stalls).bind

end Pattern

end MockSchema
