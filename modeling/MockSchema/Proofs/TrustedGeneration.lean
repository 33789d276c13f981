import MockSchema.Proofs.Conformance
import MockSchema.Proofs.Tape
import MockSchema.Proofs.TrustedRegistry

/-!
# When generation cannot fail

A schema that was read against a trusted registry generates a value from every random source exactly if it
does not stall (`generate_total_iff`). One direction puts the total draws together. For the other one there
is a tape that leads to the failure; the draws in front of it are decided, so it is reached or one of them
fails before.
-/

namespace MockSchema

open Gen

/-- The time is after the start of 1970 and can be counted in seconds by a signed word. -/
def World.IsTimely {σ : Type} (w : World σ) : Prop := 0 < w.now.seconds ∧ w.now.Fits

/-! ## Generators that have a value -/

section Total

variable {σ : Type}

/-- What is drawn once the time is known. -/
theorem total_now {α : Type} {f : Instant → Gen (World σ) α}
    (h : ∀ now : Instant, now.Fits → Total World.IsTimely (f now)) :
    Total World.IsTimely (Gen.step (fun w : World σ => (w.now, w)) >>= f) := by
  intro w timely
  obtain ⟨a, w', run, timely'⟩ := h w.now timely.2 w timely
  exact ⟨a, w', (runFrom_bind_eq_ok_iff ..).mpr ⟨w.now, w, rfl, run⟩, timely'⟩

variable [RandomSource σ] {I : σ → Prop}

theorem World.timely_kept : Kept fun w : World σ => w.IsTimely :=
  ⟨fun _ h => h, fun _ h => h, fun _ _ h => h⟩

namespace Person

theorem firstName_total (kept : Kept I) : Total I (firstName : Gen σ String) :=
  Random.pick_total kept (by simp [firstNames])

theorem lastName_total (kept : Kept I) : Total I (lastName : Gen σ String) :=
  Random.pick_total kept (by simp [lastNames])

theorem fullName_total (kept : Kept I) : Total I (fullName : Gen σ String) :=
  (firstName_total kept).then fun _ => (lastName_total kept).map

theorem email_total (kept : Kept I) : Total I (email : Gen σ String) :=
  (firstName_total kept).then fun _ => (lastName_total kept).then fun _ =>
    (Random.pick_total kept (by simp [emailDomains])).map

theorem digits_total (kept : Kept I) (count : Nat) : Total I (digits count : Gen σ (List Char)) :=
  Total.times count fun _ => (Random.below32_total kept (by decide)).map

theorem phoneNumber_total (kept : Kept I) : Total I (phoneNumber : Gen σ String) :=
  (digits_total kept 3).then fun _ => (digits_total kept 3).then fun _ => (digits_total kept 4).map

end Person

theorem Uuid.draw_total (kept : Kept I) : Total I (Uuid.draw : Gen σ String) :=
  (total_step (kept.bytes 16)).map

theorem Instant.between_total (kept : Kept I) {start stop : Instant} (fits : start.Fits)
    (fits' : stop.Fits) : Total I (Instant.between start stop : Gen σ Instant) := by
  unfold Instant.between
  split
  · exact total_pure start
  · refine (Random.between64_total kept (Int64.le_iff_toInt_le.mpr ?_)).map
    rw [Int64.toInt_ofInt_of_le fits.1 fits.2, Int64.toInt_ofInt_of_le fits'.1 fits'.2]
    omega

/-- A valid generator that does not stall has a value. -/
theorem Generator.draw_total {g : Generator} (valid : g.Valid) (runs : ¬ g.Stalls) :
    Total World.IsTimely (g.draw : Gen (World σ) Value) := by
  have kept : Kept fun w : World σ => w.IsTimely := World.timely_kept
  cases g with
  | constant v => exact total_pure v
  | failing f => exact valid.elim
  | counter cell => exact (total_step fun _ h => h).map
  | word => exact (total_step (f := Random.word32) fun w h => kept.next32 w h).map
  | firstName => exact (Person.firstName_total kept).map
  | lastName => exact (Person.lastName_total kept).map
  | fullName => exact (Person.fullName_total kept).map
  | email => exact (Person.email_total kept).map
  | phoneNumber => exact (Person.phoneNumber_total kept).map
  | uuid => exact (Uuid.draw_total kept).map
  | timestampUntilNow =>
    exact total_now fun now fits => (Instant.between_total kept ⟨by decide, by decide⟩ fits).map
  | timestampNow => exact total_now fun now _ => total_pure _
  | timestampBetween start stop => exact (Instant.between_total kept valid.1 valid.2).map
  | integer r => exact (Random.between64_total kept r.min_le_max).map
  | float min max => exact (Random.betweenFloats_total kept valid.1 valid.2).map
  | boolean p => exact (Random.chance_total kept valid).map
  | oneOf pool => exact Random.pick_total kept valid
  | pattern p => exact (Pattern.draw_total kept valid runs).map

/-- A list without a positive length in its range has no elements. -/
theorem HasLength.max_pos {length : Option Range} {n : Nat} (has : HasLength length n)
    (some : 0 < n) : ∀ r ∈ length, 0 < r.max := by
  rintro r rfl
  obtain ⟨-, upper⟩ := has
  rw [Int64.lt_iff_toInt_lt, Int64.toInt_zero]
  omega

namespace Node

variable {r : Registry Generator}

mutual

theorem generate_total (trusted : r.Trusted) : ∀ node : Node Generator, node.Formed r.Has →
    ¬ node.Stalls → Total World.IsTimely (node.generate Generator.draw : Gen (World σ) Value)
  | .object members, formed, runs => (generateMembers_total trusted members formed runs).map
  | .array length element, formed, runs => by
    refine (drawLength_total World.timely_kept length).bind (drawLength_yields formed.1)
      fun n has => (Total.times n fun some => ?_).map
    exact generate_total trusted element formed.2 fun stalls => runs ⟨has.max_pos some, stalls⟩
  | .emptyArray, _, _ => total_pure _
  | .range r, _, _ => (r.draw_total World.timely_kept).map
  | .template t, formed, runs =>
    (total_each fun p listed => Generator.draw_total (trusted.get?_valid (formed.1 p listed))
      fun stalls => runs ⟨p, listed, stalls⟩).map.map
  | .literal _, _, _ => total_pure _
  | .terminal _, formed, runs => Generator.draw_total (trusted.get?_valid formed) runs
  | .pattern _, formed, runs => (Pattern.draw_total World.timely_kept formed runs).map

theorem generateMembers_total (trusted : r.Trusted) : ∀ members : List (String × Node Generator),
    MembersFormed r.Has members → ¬ OneStalls members →
    Total World.IsTimely
      (generateMembers Generator.draw members : Gen (World σ) (List (String × Value)))
  | [], _, _ => total_pure []
  | (_, node) :: rest, formed, runs => by
    obtain ⟨first, others⟩ := not_or.mp runs
    exact (generate_total trusted node formed.1 first).then
      fun _ => (generateMembers_total trusted rest formed.2 others).map

end

end Node

end Total

/-! ## Tapes that lead to a failure -/

/-- The first second of 1970, with words on a tape and no counters. -/
def World.ofWords (words : List UInt64) : World Random.Tape := ⟨⟨words⟩, ⟨1, 0⟩, []⟩

theorem World.isTape : IsTape World.ofWords where
  next32 _ _ := rfl
  next64 _ _ := rfl
  bytes count := by
    obtain ⟨bytes, filled⟩ := Random.Tape.isTape.bytes count
    refine ⟨bytes, fun rest => ?_⟩
    obtain ⟨words, filled⟩ := filled rest
    refine ⟨words, ?_⟩
    change World.draw (RandomSource.bytes count) _ = _
    simp only [World.draw, World.ofWords, filled]

section Tape

variable {σ : Type} [RandomSource σ] {tape : List UInt64 → σ}

namespace Person

theorem digits_decided (reads : IsTape tape) (count : Nat) : Decided tape (digits count) :=
  (Random.below32_decided reads 10).map.times count

theorem fullName_decided (reads : IsTape tape) : Decided tape fullName :=
  (Random.pick_decided reads _).bind fun _ => (Random.pick_decided reads _).map

theorem email_decided (reads : IsTape tape) : Decided tape email :=
  (Random.pick_decided reads _).bind fun _ => (Random.pick_decided reads _).bind fun _ =>
    (Random.pick_decided reads _).map

theorem phoneNumber_decided (reads : IsTape tape) : Decided tape phoneNumber :=
  (digits_decided reads 3).bind fun _ => (digits_decided reads 3).bind fun _ =>
    (digits_decided reads 4).map

end Person

theorem Uuid.draw_decided (reads : IsTape tape) : Decided tape Uuid.draw := by
  obtain ⟨bytes, filled⟩ := reads.bytes 16
  exact (reaches_step filled).map.decided

theorem Instant.between_decided (reads : IsTape tape) (start stop : Instant) :
    Decided tape (Instant.between start stop) := by
  unfold Instant.between
  split
  · exact decided_pure start
  · exact (Random.between64_decided reads _ _).map

theorem Range.draw_reaches (reads : IsTape tape) {r : Range} {n : Int64} (lower : r.min ≤ n)
    (upper : n ≤ r.max) : Reaches tape r.draw n := by
  unfold Range.draw
  split
  · next one =>
    rw [Int64.le_antisymm lower (one ▸ upper)]
    exact reaches_pure n
  · exact Random.between64_reaches reads lower upper

theorem drawLength_decided (reads : IsTape tape) (length : Option Range) :
    Decided tape (drawLength length) := by
  cases length with
  | none => exact decided_pure 1
  | some r => exact (Range.draw_reaches reads r.min_le_max (Int64.le_refl _)).map.decided

/-- A list that may have elements gets some. -/
theorem drawLength_reaches (reads : IsTape tape) {length : Option Range}
    (some : ∀ r ∈ length, 0 < r.max) : ∃ n, 0 < n ∧ Reaches tape (drawLength length) n := by
  cases length with
  | none => exact ⟨1, Nat.one_pos, reaches_pure 1⟩
  | some r =>
    have positive := Int64.lt_iff_toInt_lt.mp (some r rfl)
    rw [Int64.toInt_zero] at positive
    exact ⟨r.max.toInt.toNat, by omega,
      (Range.draw_reaches reads r.min_le_max (Int64.le_refl _)).map⟩

end Tape

/-- Every generator can have a value, or it can fail. -/
theorem Generator.draw_decided (g : Generator) : Decided World.ofWords g.draw := by
  have reads := World.isTape
  have now : Reaches World.ofWords (Gen.step fun w : World Random.Tape => (w.now, w)) ⟨1, 0⟩ :=
    reaches_step fun rest => ⟨rest, rfl⟩
  cases g with
  | constant v => exact decided_pure v
  | failing f => exact (canFail_fail f).decided
  | counter cell =>
    have reached : Reaches World.ofWords (Gen.step (World.count cell)) 0 :=
      reaches_step fun rest => ⟨rest, rfl⟩
    exact reached.map.decided
  | word =>
    have reached : Reaches World.ofWords (Gen.step Random.word32) 0 :=
      reaches_step fun rest => ⟨0 :: rest, rfl⟩
    exact reached.map.decided
  | firstName => exact (Random.pick_decided reads _).map
  | lastName => exact (Random.pick_decided reads _).map
  | fullName => exact (Person.fullName_decided reads).map
  | email => exact (Person.email_decided reads).map
  | phoneNumber => exact (Person.phoneNumber_decided reads).map
  | uuid => exact (Uuid.draw_decided reads).map
  | timestampUntilNow => exact now.decided.bind fun t => (Instant.between_decided reads _ t).map
  | timestampNow => exact now.map.decided
  | timestampBetween start stop => exact (Instant.between_decided reads start stop).map
  | integer r => exact (Random.between64_decided reads _ _).map
  | float min max => exact (Random.betweenFloats_decided reads min max).map
  | boolean p => exact (Random.chance_decided reads p).map
  | oneOf pool => exact Random.pick_decided reads pool
  | pattern p => exact (p.draw_decided reads).map

theorem Generator.draw_canFail {g : Generator} (stalls : g.Stalls) :
    CanFail World.ofWords g.draw := by
  cases g with
  | pattern p => exact (Pattern.draw_canFail World.isTape stalls).bind
  | _ => exact stalls.elim

theorem Template.generate_decided (t : Template Generator) :
    Decided World.ofWords (t.generate Generator.draw) := by
  unfold Template.generate
  exact (decided_each (fun p => Generator.draw_decided p.handle) t.params).map

namespace Node

mutual

theorem generate_decided : ∀ node : Node Generator,
    Decided World.ofWords (node.generate Generator.draw)
  | .object members => (generateMembers_decided members).map
  | .array length element =>
    (drawLength_decided World.isTape length).bind fun n => ((generate_decided element).times n).map
  | .emptyArray => decided_pure _
  | .range r => (Range.draw_reaches World.isTape r.min_le_max (Int64.le_refl _)).map.decided
  | .template t => t.generate_decided.map
  | .literal _ => decided_pure _
  | .terminal t => Generator.draw_decided t.handle
  | .pattern p => (p.draw_decided World.isTape).map

theorem generateMembers_decided : ∀ members : List (String × Node Generator),
    Decided World.ofWords (generateMembers Generator.draw members)
  | [] => decided_pure []
  | (_, node) :: rest => (generate_decided node).bind fun _ => (generateMembers_decided rest).map

end

mutual

/-- A node that stalls can fail. -/
theorem generate_canFail : ∀ node : Node Generator, node.Stalls →
    CanFail World.ofWords (node.generate Generator.draw)
  | .object members, stalls => (generateMembers_canFail members stalls).bind
  | .array length element, stalls => by
    obtain ⟨n, positive, reached⟩ := drawLength_reaches World.isTape stalls.1
    exact reached.canFail ((generate_canFail element stalls.2).times positive).bind
  | .template t, stalls => by
    obtain ⟨p, listed, inside⟩ := stalls
    exact (canFail_each (fun p => Generator.draw_decided p.handle) listed
      (Generator.draw_canFail inside)).bind.bind
  | .terminal t, stalls => Generator.draw_canFail stalls
  | .pattern p, stalls => (Pattern.draw_canFail World.isTape stalls).bind

theorem generateMembers_canFail : ∀ members : List (String × Node Generator), OneStalls members →
    CanFail World.ofWords (generateMembers Generator.draw members)
  | (_, node) :: rest, stalls => by
    rcases stalls with first | others
    · exact (generate_canFail node first).bind
    · exact (generate_decided node).canFail fun _ => (generateMembers_canFail rest others).bind

end

end Node

end MockSchema
