import MockSchema.Proofs.TimestampText
import MockSchema.Proofs.TrustedGeneration

/-!
# Timestamps drawn from a range

A range draws whole seconds, from the second that its start lies in to the second that its stop lies in
(`Instant.MayDraw`; each of them can be drawn). What is written is therefore never behind the stop, but a start
with a fraction lies behind the beginning of its second, and that beginning can be drawn. A year that is not of
four digits is written with a sign, in a form that is not read. `Definition.timestampRange_draws` says what
every draw of a range gives, and which ranges keep their draws within their bounds: those in years of four
digits whose start has no fraction.
-/

namespace MockSchema

namespace Instant

theorem le_iff {a b : Instant} :
    a.le b = true ↔ a.seconds < b.seconds ∨ a.seconds = b.seconds ∧ a.nanos ≤ b.nanos := by
  simp [le]

/-- Between two instants in years of four digits there are no other years. -/
theorem FourDigits.between {a b t : Instant} (first : a.FourDigits) (last : b.FourDigits)
    (lower : a.seconds ≤ t.seconds) (upper : t.seconds ≤ b.seconds) : t.FourDigits :=
  ⟨first.1.trans (Date.year_mono (Int.ediv_le_ediv (by decide) lower)),
    (Date.year_mono (Int.ediv_le_ediv (by decide) upper)).trans last.2⟩

/-- The second of an instant is not before it if the instant is the beginning of the second, or of a leap second. -/
theorem le_wholeSecond_iff (t : Instant) :
    t.le t.wholeSecond = true ↔ t.nanos = 0 ∨ t.nanos = leapNanos := by
  simp only [le_iff, wholeSecond, Int.lt_irrefl, false_or, true_and]
  unfold leapNanos
  by_cases leaps : 1000000000 ≤ t.nanos
  · rw [if_pos leaps]
    omega
  · rw [if_neg leaps]
    omega

/-- What is written denotes an instant between two others. -/
def WrittenWithin (start stop t : Instant) : Prop :=
  ∃ u, parse? t.text = some u ∧ start.le u = true ∧ u.le stop = true

/-- A regular instant is read as its second, or not at all. -/
theorem writtenWithin_iff {start stop t : Instant} (regular : t.Regular) :
    WrittenWithin start stop t ↔
      t.FourDigits ∧ start.le t.wholeSecond = true ∧ t.wholeSecond.le stop = true := by
  unfold WrittenWithin
  by_cases year : t.FourDigits
  · simp [parse?_text regular year, year]
  · simp [parse?_text_eq_none year, year]

/-! ## What can be drawn -/

/-- A draw between two instants: a whole second, or the first instant where there is but one second. -/
def MayDraw (start stop t : Instant) : Prop :=
  if stop.seconds ≤ start.seconds then t = start
  else (start.seconds ≤ t.seconds ∧ t.seconds ≤ stop.seconds) ∧ t.nanos = 0

section

variable {start stop : Instant} (fits : start.Fits) (fits' : stop.Fits)

include fits fits'

theorem between_yields {σ : Type} [RandomSource σ] :
    (between start stop : Gen σ Instant).Yields (MayDraw start stop) := by
  unfold between MayDraw
  split
  · exact Gen.yields_pure rfl
  · refine (Random.between64_yields _ _).map fun n inside => ⟨?_, rfl⟩
    rwa [Int64.le_iff_toInt_le, Int64.le_iff_toInt_le, Int64.toInt_ofInt_of_le fits.1 fits.2,
      Int64.toInt_ofInt_of_le fits'.1 fits'.2] at inside

/-- Every second between two instants can be drawn. -/
theorem between_reaches {σ : Type} [RandomSource σ] {tape : List UInt64 → σ} (reads : IsTape tape) {t : Instant}
    (may : MayDraw start stop t) : Gen.Reaches tape (between start stop) t := by
  unfold MayDraw at may
  unfold between
  split
  · next one =>
    rw [if_pos one] at may
    rw [may]
    exact Gen.reaches_pure start
  · next some =>
    rw [if_neg some] at may
    obtain ⟨⟨lower, upper⟩, whole⟩ := may
    have second : (Int64.ofInt t.seconds).toInt = t.seconds :=
      Int64.toInt_ofInt_of_le (fits.1.trans lower) (upper.trans_lt fits'.2)
    have drawn : Gen.Reaches tape (Random.between64 (Int64.ofInt start.seconds) (Int64.ofInt stop.seconds))
        (Int64.ofInt t.seconds) := by
      refine Random.between64_reaches reads ?_ ?_
      · rwa [Int64.le_iff_toInt_le, second, Int64.toInt_ofInt_of_le fits.1 fits.2]
      · rwa [Int64.le_iff_toInt_le, second, Int64.toInt_ofInt_of_le fits'.1 fits'.2]
    have same : t = ⟨(Int64.ofInt t.seconds).toInt, 0⟩ := by rw [second, ← whole]
    rw [same]
    exact drawn.map

end

variable {start stop t : Instant}

theorem MayDraw.regular (regular : start.Regular) (may : MayDraw start stop t) : t.Regular := by
  unfold MayDraw at may
  split at may
  · exact may ▸ regular
  · simp [Regular, may.2, leapNanos]

/-- The second that is written is one of the seconds from that of the start on, and not behind the stop. -/
theorem MayDraw.bounds (order : start.le stop = true) (may : MayDraw start stop t) :
    (start.seconds ≤ t.seconds ∧ t.seconds ≤ stop.seconds) ∧ t.wholeSecond.le stop = true := by
  rw [le_iff] at order
  simp only [le_iff, wholeSecond]
  unfold MayDraw at may
  split at may
  · subst may
    split <;> omega
  · obtain ⟨⟨lower, upper⟩, whole⟩ := may
    rw [whole, if_neg (by decide)]
    omega

/-- A range in years of four digits, from the beginning of a second on. The beginning of a leap second is behind
the second that it belongs to, so it must be the only one. -/
def WholeRange (start stop : Instant) : Prop :=
  (start.FourDigits ∧ stop.FourDigits) ∧
    (start.nanos = 0 ∨ start.nanos = leapNanos ∧ stop.seconds = start.seconds)

/-- In one second only the start is drawn. -/
theorem wholeRange_iff_of_le (regular : start.Regular) (order : start.le stop = true)
    (one : stop.seconds ≤ start.seconds) :
    (∀ t, MayDraw start stop t → WrittenWithin start stop t) ↔ WholeRange start stop := by
  have second : stop.seconds = start.seconds := by
    rw [le_iff] at order
    omega
  have may : MayDraw start stop start := by
    unfold MayDraw
    rw [if_pos one]
  have years : start.FourDigits ↔ start.FourDigits ∧ stop.FourDigits :=
    ⟨fun year => ⟨year, year.between year second.ge second.le⟩, And.left⟩
  calc (∀ t, MayDraw start stop t → WrittenWithin start stop t)
      ↔ WrittenWithin start stop start := by simp only [MayDraw, if_pos one, forall_eq]
    _ ↔ start.FourDigits ∧ (start.nanos = 0 ∨ start.nanos = leapNanos) := by
        rw [writtenWithin_iff regular, le_wholeSecond_iff, and_iff_left (may.bounds order).2]
    _ ↔ WholeRange start stop := by
        rw [WholeRange, ← years, and_iff_left second]

/-- Of several seconds the bounds decide: if they are read and the first one is not before the start, the others
are read and not before it either. -/
theorem wholeRange_iff_of_lt (regular : start.Regular) (order : start.le stop = true)
    (some : ¬ stop.seconds ≤ start.seconds) :
    (∀ t, MayDraw start stop t → WrittenWithin start stop t) ↔ WholeRange start stop := by
  constructor
  · intro within
    have ends (n : Int) (lower : start.seconds ≤ n) (upper : n ≤ stop.seconds) :
        FourDigits ⟨n, 0⟩ ∧ start.le ⟨n, 0⟩ = true := by
      have may : MayDraw start stop ⟨n, 0⟩ := by
        unfold MayDraw
        rw [if_neg some]
        exact ⟨⟨lower, upper⟩, rfl⟩
      obtain ⟨year, behind, -⟩ := (writtenWithin_iff (may.regular regular)).mp (within _ may)
      exact ⟨year, behind⟩
    obtain ⟨first, behind⟩ := ends start.seconds (Int.le_refl _) (by omega)
    obtain ⟨last, -⟩ := ends stop.seconds (by omega) (Int.le_refl _)
    refine ⟨⟨first, last⟩, .inl ?_⟩
    simp only [le_iff] at behind
    omega
  · rintro ⟨⟨first, last⟩, begins⟩ t may
    obtain ⟨⟨lower, upper⟩, before⟩ := may.bounds order
    refine (writtenWithin_iff (may.regular regular)).mpr ⟨first.between last lower upper, ?_, before⟩
    simp only [le_iff, wholeSecond]
    omega

theorem forall_mayDraw_iff (regular : start.Regular) (order : start.le stop = true) :
    (∀ t, MayDraw start stop t → WrittenWithin start stop t) ↔ WholeRange start stop := by
  by_cases one : stop.seconds ≤ start.seconds
  · exact wholeRange_iff_of_le regular order one
  · exact wholeRange_iff_of_lt regular order one

end Instant

/-! ## What is written -/

/-- From every random source a text is drawn, and it denotes an instant between two others. -/
def Generator.DrawsWithin (g : Generator) (start stop : Instant) : Prop :=
  ∀ (σ : Type) [RandomSource σ] (w : World σ), ∃ text t w',
    g.draw.runFrom w = (.ok (.string text), w') ∧ Instant.parse? text = some t ∧
      start.le t = true ∧ t.le stop = true

namespace Generator

open Instant

variable {start stop : Instant} (fits : start.Fits) (fits' : stop.Fits)

include fits fits'

/-- A range draws from every random source. -/
theorem draw_timestampBetween {σ : Type} [RandomSource σ] (w : World σ) :
    ∃ t w', (Generator.timestampBetween start stop).draw.runFrom w = (.ok (.string t.text), w') ∧
      MayDraw start stop t := by
  have kept : Gen.Kept fun _ : World σ => True := ⟨fun _ _ => trivial, fun _ _ => trivial, fun _ _ _ => trivial⟩
  obtain ⟨t, w', run, -⟩ := between_total kept fits fits' w trivial
  exact ⟨t, w', (Gen.runFrom_bind_eq_ok_iff ..).mpr ⟨t, w', run, rfl⟩, between_yields fits fits' run⟩

/-- The draws of a range stay within bounds if all that can be drawn does. -/
theorem drawsWithin_iff : (Generator.timestampBetween start stop).DrawsWithin start stop ↔
    ∀ t, MayDraw start stop t → WrittenWithin start stop t := by
  constructor
  · intro within t may
    obtain ⟨words, reached⟩ := between_reaches fits fits' World.isTape may []
    have run : (Generator.timestampBetween start stop).draw.runFrom (World.ofWords words) =
        (.ok (.string t.text), World.ofWords []) :=
      (Gen.runFrom_bind_eq_ok_iff ..).mpr ⟨t, _, reached, rfl⟩
    obtain ⟨text, u, w', run', read⟩ := within Random.Tape (World.ofWords words)
    cases run.symm.trans run'
    exact ⟨u, read⟩
  · intro within σ _ w
    obtain ⟨t, w', run, may⟩ := draw_timestampBetween fits fits' w
    obtain ⟨u, read⟩ := within t may
    exact ⟨t.text, u, w', run, read⟩

end Generator

/-- A range of timestamps that is accepted draws a whole second from every random source. It is not before the
second that the start lies in and not behind the stop, and its text denotes it exactly if its year has four
digits. So all draws are texts of instants between the bounds if these are in years of four digits and the start
is at the beginning of a second, or is the beginning of a leap second without another second behind it; and in
no other case. -/
theorem Definition.timestampRange_draws {start stop : String} {g : Generator}
    (accepted : (Definition.timestampRange start stop).toGenerator = .ok g) :
    ∃ a b, Instant.parse? start = some a ∧ Instant.parse? stop = some b ∧
      (∀ (σ : Type) [RandomSource σ] (w : World σ), ∃ t w',
        g.draw.runFrom w = (.ok (.string t.text), w') ∧ a.seconds ≤ t.seconds ∧ t.le b = true ∧
          (t.FourDigits → Instant.parse? t.text = some t) ∧
          (¬ t.FourDigits → Instant.parse? t.text = none)) ∧
      (g.DrawsWithin a b ↔ Instant.WholeRange a b) := by
  obtain ⟨a, b, readStart, readStop, order, rfl⟩ := timestampRangeGenerator_eq_ok accepted
  have fits := Instant.parse?_fits readStart
  have fits' := Instant.parse?_fits readStop
  have regular := Instant.parse?_regular readStart
  refine ⟨a, b, readStart, readStop, fun σ _ w => ?_, ?_⟩
  · obtain ⟨t, w', run, may⟩ := Generator.draw_timestampBetween fits fits' w
    obtain ⟨⟨lower, -⟩, before⟩ := may.bounds order
    rw [← t.text_wholeSecond] at run
    refine ⟨t.wholeSecond, w', run, lower, before, fun year => ?_, fun year => ?_⟩
    · rw [t.text_wholeSecond]
      exact Instant.parse?_text (may.regular regular) year
    · exact Instant.parse?_text_eq_none year
  · rw [Generator.drawsWithin_iff fits fits', Instant.forall_mayDraw_iff regular order]

/-- A range of half a second: what is drawn may be the beginning of the second, which lies before it. -/
theorem Definition.timestampRange_draws_fraction :
    ∃ g, (Definition.timestampRange "2020-01-01T00:00:00.5Z" "2020-01-01T00:00:01Z").toGenerator = .ok g ∧
      ¬ g.DrawsWithin ⟨1577836800, 500000000⟩ ⟨1577836801, 0⟩ := by
  have readStart : Instant.parse? "2020-01-01T00:00:00.5Z" = some ⟨1577836800, 500000000⟩ := by decide
  have readStop : Instant.parse? "2020-01-01T00:00:01Z" = some ⟨1577836801, 0⟩ := by decide
  have accepted : (Definition.timestampRange "2020-01-01T00:00:00.5Z" "2020-01-01T00:00:01Z").toGenerator =
      .ok (.timestampBetween ⟨1577836800, 500000000⟩ ⟨1577836801, 0⟩) := by
    simp only [Definition.toGenerator, Definition.timestampRangeGenerator, readStart, readStop]
    rfl
  refine ⟨_, accepted, fun within => ?_⟩
  obtain ⟨a, b, readA, readB, -, inside⟩ := Definition.timestampRange_draws accepted
  cases readStart.symm.trans readA
  cases readStop.symm.trans readB
  obtain ⟨-, fraction⟩ := inside.mp within
  exact absurd fraction (by decide)

end MockSchema
