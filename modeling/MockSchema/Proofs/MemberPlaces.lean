import Mathlib.Data.Finset.Card
import Mathlib.Data.Finset.Range
import Mathlib.Data.Set.Function
import MockSchema.Pattern.Sample
import MockSchema.Proofs.Spans
import MockSchema.Proofs.Totality

/-!
# Members of a class by their places

A member of a class is drawn by its place: the places run through one span after the other, and the surrogates
inside a span are stepped over. The number of places is computed in one way and the member at a place in
another; that both agree is what `CharSet.places_enumerate` says. As long as no code point lies in two spans,
whatever their order, the places below the number of members lead to every member exactly once. `Checked`
computes the same in words of 32 bits, without a result as soon as a sum or a difference leaves them, and it
always has one.
-/

namespace MockSchema

namespace CharSet

/-- No code point lies in two spans. They need not ascend. -/
def Apart (a : CharSet) : Prop := a.spans.Pairwise fun s t => s.2 < t.1 ∨ t.2 < s.1

/-! ## Every place has a member of its own -/

/-- The code point of the character at a place, on this side of the surrogates or behind them. -/
theorem toNat_of_spanAt? {s : Nat × Nat} {place : Nat} {c : Char} (found : spanAt? s place = some c) :
    c.toNat = s.1 + place + 0x800 ∧ s.1 < 0xD800 ∧ 0xD800 ≤ s.1 + place ∨
      c.toNat = s.1 + place ∧ ¬ (s.1 < 0xD800 ∧ 0xD800 ≤ s.1 + place) := by
  unfold spanAt? at found
  dsimp only at found
  by_cases across : s.1 < surrogateFirst ∧ surrogateFirst ≤ s.1 + place
  · rw [if_pos across] at found
    obtain ⟨valid, same⟩ := Option.dite_none_right_eq_some.mp found
    cases same
    exact .inl ⟨rfl, across⟩
  · rw [if_neg across] at found
    obtain ⟨valid, same⟩ := Option.dite_none_right_eq_some.mp found
    cases same
    exact .inr ⟨rfl, across⟩

theorem spanAt?_injective {s : Nat × Nat} {p q : Nat} {c : Char} (first : spanAt? s p = some c)
    (second : spanAt? s q = some c) : p = q := by
  have first := toNat_of_spanAt? first
  have second := toNat_of_spanAt? second
  omega

/-- By induction on the spans. A character from the first span is in none of the others, so it has no place
there. -/
theorem get?_injective {a : CharSet} (ends : a.HasEnds) (apart : a.Apart) {p q : Nat} {c : Char}
    (insideP : p < a.count) (insideQ : q < a.count) (first : a.get? p = some c)
    (second : a.get? q = some c) : p = q := by
  obtain ⟨spans⟩ := a
  induction spans generalizing p q with
  | nil => cases first
  | cons s rest ih =>
    obtain ⟨span, ends⟩ := List.forall_mem_cons.mp ends
    obtain ⟨others, apart⟩ := List.pairwise_cons.mp apart
    have alone : ∀ {p q : Nat}, p < spanCount s → spanAt? s p = some c → q < countOf rest →
        at? rest q ≠ some c := by
      intro p q inside first below second
      obtain ⟨d, found, low, high⟩ := spanAt?_eq_some span inside
      cases first.symm.trans found
      obtain ⟨d, found, member⟩ := get?_eq_some (a := ⟨rest⟩) ends below
      cases second.symm.trans found
      obtain ⟨t, listed, inside⟩ := List.any_eq_true.mp member
      have := others t listed
      simp only [Bool.and_eq_true, decide_eq_true_eq] at inside
      omega
    simp only [count, get?, countOf, at?] at insideP insideQ first second ih
    split at first
    · next p_first =>
      split at second
      · exact spanAt?_injective first second
      · exact absurd second (alone p_first first (by omega))
    · split at second
      · next q_first => exact absurd first (alone q_first second (by omega))
      · have := ih ends apart (by omega) (by omega) first second
        omega

/-- The places below the number of members lead to every member exactly once. -/
theorem get?_bijOn {a : CharSet} (ends : a.HasEnds) (apart : a.Apart) :
    Set.BijOn a.get? (Set.Iio a.count) (some '' {c : Char | a.contains c.toNat = true}) := by
  refine ⟨fun place inside => ?_, fun p insideP q insideQ same => ?_, ?_⟩
  · obtain ⟨c, found, member⟩ := get?_eq_some ends inside
    exact ⟨c, member, found.symm⟩
  · obtain ⟨c, found, -⟩ := get?_eq_some ends insideP
    exact get?_injective ends apart insideP insideQ found (same.symm.trans found)
  · rintro _ ⟨c, member, rfl⟩
    exact exists_get? ends member

/-- There are no more members than code points, since different places have different members. -/
theorem count_le_of_apart {a : CharSet} (ends : a.HasEnds) (apart : a.Apart) : a.count ≤ 0x110000 := by
  have fewer := Finset.card_le_card_of_injOn (s := Finset.range a.count) (t := Finset.range 0x110000)
    (fun place => ((a.get? place).map Char.toNat).getD 0) ?_ ?_
  · simpa using fewer
  · intro place inside
    obtain ⟨c, found, -⟩ := get?_eq_some ends (by simpa using inside)
    have valid := c.valid
    simp only [UInt32.isValidChar, Nat.isValidChar] at valid
    simp only [found, Option.map_some, Option.getD_some, Finset.coe_range, Set.mem_Iio]
    change c.val.toNat < 0x110000
    omega
  · intro p insideP q insideQ same
    simp only [Finset.coe_range, Set.mem_Iio] at insideP insideQ
    obtain ⟨c, first, -⟩ := get?_eq_some ends insideP
    obtain ⟨d, second, -⟩ := get?_eq_some ends insideQ
    simp only [first, second, Option.map_some, Option.getD_some] at same
    cases Char.toNat_inj.mp same
    exact get?_injective ends apart insideP insideQ first second

end CharSet

/-! ## The same in words -/

namespace Checked

/-- A sum of words; none if it does not fit. -/
def add? (x y : UInt32) : Option UInt32 :=
  if x.toNat + y.toNat < 2 ^ 32 then some (x + y) else none

/-- A difference of words; none if it is negative. -/
def sub? (x y : UInt32) : Option UInt32 := if y ≤ x then some (x - y) else none

theorem add?_ofNat {m n : Nat} (fits : m + n < 2 ^ 32) :
    add? (.ofNat m) (.ofNat n) = some (.ofNat (m + n)) := by
  have first : m < 2 ^ 32 := by omega
  have second : n < 2 ^ 32 := by omega
  rw [add?, UInt32.toNat_ofNat_of_lt' first, UInt32.toNat_ofNat_of_lt' second, if_pos fits,
    UInt32.ofNat_add]

theorem sub?_ofNat {m n : Nat} (order : n ≤ m) (fits : m < 2 ^ 32) :
    sub? (.ofNat m) (.ofNat n) = some (.ofNat (m - n)) := by
  have second : n < 2 ^ 32 := by omega
  have ordered : UInt32.ofNat n ≤ UInt32.ofNat m := (UInt32.ofNat_le_iff_le second fits).mpr order
  rw [sub?, if_pos ordered, UInt32.ofNat_sub order]

theorem ofNat_lt_ofNat {m n : Nat} (first : m < 2 ^ 32) (second : n < 2 ^ 32) :
    UInt32.ofNat m < UInt32.ofNat n ↔ m < n :=
  UInt32.ofNat_lt_iff_lt first second

/-- The character with a code point; none for a surrogate and beyond the last one. -/
def char? (code : UInt32) : Option Char :=
  if valid : code.toNat.isValidChar then some (Char.ofNatAux code.toNat valid) else none

/-- Number of characters in a span. -/
def spanCount? (s : UInt32 × UInt32) : Option UInt32 := do
  let count ← add? (← sub? s.2 s.1) 1
  if s.1 < 0xD800 ∧ 0xDFFF < s.2 then sub? count 0x800 else some count

/-- The character at a place of a span. -/
def spanAt? (s : UInt32 × UInt32) (place : UInt32) : Option Char := do
  let code ← add? s.1 place
  if s.1 < 0xD800 ∧ 0xD800 ≤ code then char? (← add? code 0x800) else char? code

/-- Number of bytes in a span of bytes. -/
def byteCount? (s : UInt8 × UInt8) : Option UInt32 := do
  add? (← sub? s.2.toUInt32 s.1.toUInt32) 1

/-- The byte at a place of a span of bytes. -/
def byteAt? (s : UInt8 × UInt8) (place : UInt32) : Option UInt8 := do
  let code ← add? s.1.toUInt32 place
  if code.toNat < 2 ^ 8 then some code.toUInt8 else none

section

variable {ι β : Type}

/-- Members of all spans together, counted span by span. -/
def total? (count? : ι → Option UInt32) (spans : List ι) : Option UInt32 :=
  spans.foldlM (fun total s => do add? total (← count? s)) 0

/-- The member at a place in the spans, taken one after the other. -/
def at? (count? : ι → Option UInt32) (member? : ι → UInt32 → Option β) : List ι → UInt32 → Option β
  | [], _ => none
  | s :: rest, place => do
    let count ← count? s
    if place < count then member? s place else at? count? member? rest (← sub? place count)

open CharSet (spanCount countOf)

/-- By induction on the spans, for any number counted before them. -/
theorem foldlM_count?_eq {count? : ι → Option UInt32} {code : ι → Nat × Nat} {spans : List ι}
    (counts : ∀ s ∈ spans, count? s = some (.ofNat (spanCount (code s)))) (before : Nat)
    (fits : before + countOf (spans.map code) < 2 ^ 32) :
    spans.foldlM (fun total s => do add? total (← count? s)) (.ofNat before) =
      some (.ofNat (before + countOf (spans.map code))) := by
  induction spans generalizing before with
  | nil => rfl
  | cons s rest ih =>
    obtain ⟨first, counts⟩ := List.forall_mem_cons.mp counts
    simp only [List.map_cons, countOf] at fits ⊢
    have others := ih counts (before + spanCount (code s)) (by omega)
    rw [List.foldlM_cons, first]
    change (add? _ _).bind _ = _
    rw [add?_ofNat (by omega), Option.bind_some, others, Nat.add_assoc]

/-- Sums of counts that fit are computed as they are. -/
theorem total?_eq {count? : ι → Option UInt32} {code : ι → Nat × Nat} {spans : List ι}
    (counts : ∀ s ∈ spans, count? s = some (.ofNat (spanCount (code s))))
    (fits : countOf (spans.map code) < 2 ^ 32) :
    total? count? spans = some (.ofNat (countOf (spans.map code))) := by
  have whole := foldlM_count?_eq counts 0 (by rwa [Nat.zero_add])
  rwa [Nat.zero_add] at whole

/-- Places that are inside are followed to the same member. -/
theorem at?_eq {count? : ι → Option UInt32} {member? : ι → UInt32 → Option β} {code : ι → Nat × Nat}
    {char : β → Char} {spans : List ι}
    (counts : ∀ s ∈ spans, count? s = some (.ofNat (spanCount (code s))))
    (members : ∀ s ∈ spans, ∀ place < spanCount (code s),
      (member? s (.ofNat place)).map char = CharSet.spanAt? (code s) place)
    (fits : countOf (spans.map code) < 2 ^ 32) (place : Nat)
    (inside : place < countOf (spans.map code)) :
    (at? count? member? spans (.ofNat place)).map char = CharSet.at? (spans.map code) place := by
  induction spans generalizing place with
  | nil => cases inside
  | cons s rest ih =>
    obtain ⟨count, counts⟩ := List.forall_mem_cons.mp counts
    obtain ⟨member, members⟩ := List.forall_mem_cons.mp members
    simp only [List.map_cons, countOf] at fits inside
    have below := ofNat_lt_ofNat (m := place) (n := spanCount (code s)) (by omega) (by omega)
    simp only [List.map_cons, CharSet.at?, at?, count, Option.bind_eq_bind, Option.bind_some, below]
    split
    · next first => exact member place first
    · next later =>
      rw [sub?_ofNat (by omega) (by omega), Option.bind_some]
      exact ih counts members (by omega) _ (by omega)

end

/-! ### Spans of characters -/

section

variable {s : Nat × Nat}

theorem char?_ofNat {n : Nat} (valid : n.isValidChar) :
    char? (.ofNat n) = some (Char.ofNatAux n valid) := by
  have fits : n < 2 ^ 32 := by
    simp only [Nat.isValidChar] at valid
    omega
  have same : (UInt32.ofNat n).toNat = n := UInt32.toNat_ofNat_of_lt' fits
  have valid' : (UInt32.ofNat n).toNat.isValidChar := same.symm ▸ valid
  rw [char?, dif_pos valid', Option.some_inj, ← Char.toNat_inj]
  exact same

theorem spanCount?_ofNat (span : CharSet.IsSpan s) :
    spanCount? (.ofNat s.1, .ofNat s.2) = some (.ofNat (CharSet.spanCount s)) := by
  have count := CharSet.spanCount_eq s
  rw [CharSet.isSpan_iff] at span
  have before : UInt32.ofNat s.1 < 0xD800 ↔ s.1 < 0xD800 := ofNat_lt_ofNat (by omega) (by decide)
  have behind : 0xDFFF < UInt32.ofNat s.2 ↔ 0xDFFF < s.2 := ofNat_lt_ofNat (by decide) (by omega)
  have length : add? (.ofNat (s.2 - s.1)) 1 = some (.ofNat (s.2 - s.1 + 1)) :=
    add?_ofNat (n := 1) (by omega)
  rw [spanCount?, sub?_ofNat span.2.2.1 (by omega)]
  simp only [Option.bind_eq_bind, Option.bind_some, length, before, behind]
  rcases count with ⟨count, across⟩ | ⟨count, beside⟩
  · rw [if_pos across, count]
    exact sub?_ofNat (n := 0x800) (by omega) (by omega)
  · rw [if_neg beside, count]

theorem spanAt?_ofNat (span : CharSet.IsSpan s) {place : Nat} (inside : place < CharSet.spanCount s) :
    spanAt? (.ofNat s.1, .ofNat s.2) (.ofNat place) = CharSet.spanAt? s place := by
  obtain ⟨c, found, -⟩ := CharSet.spanAt?_eq_some span inside
  have count := CharSet.spanCount_eq s
  have valid : c.toNat.isValidChar := c.valid
  rw [CharSet.isSpan_iff] at span
  have before : UInt32.ofNat s.1 < 0xD800 ↔ s.1 < 0xD800 := ofNat_lt_ofNat (by omega) (by decide)
  have behind : 0xD800 ≤ UInt32.ofNat (s.1 + place) ↔ 0xD800 ≤ s.1 + place := by
    rw [← UInt32.not_lt, ← Nat.not_lt, not_iff_not]
    exact ofNat_lt_ofNat (by omega) (by decide)
  rw [found, spanAt?, add?_ofNat (by omega)]
  simp only [Option.bind_eq_bind, Option.bind_some, before, behind]
  rcases CharSet.toNat_of_spanAt? found with ⟨code, across⟩ | ⟨code, beside⟩
  · have further : add? (.ofNat (s.1 + place)) 0x800 = some (.ofNat c.toNat) :=
      code ▸ add?_ofNat (n := 0x800) (by omega)
    rw [if_pos across, further, Option.bind_some, char?_ofNat valid]
    rfl
  · rw [if_neg beside, ← code, char?_ofNat valid]
    rfl

end

/-! ### Spans of bytes -/

/-- The bounds of a span of bytes. -/
def byteSpan (s : UInt8 × UInt8) : Nat × Nat := (s.1.toNat, s.2.toNat)

section

variable {s : UInt8 × UInt8}

theorem isSpan_byteSpan (order : s.1 ≤ s.2) : CharSet.IsSpan (byteSpan s) := by
  have first := s.1.toNat_lt
  have last := s.2.toNat_lt
  rw [UInt8.le_iff_toNat_le] at order
  rw [CharSet.isSpan_iff, byteSpan]
  dsimp only
  omega

theorem spanCount_byteSpan (s : UInt8 × UInt8) :
    CharSet.spanCount (byteSpan s) = s.2.toNat - s.1.toNat + 1 := by
  have last := s.2.toNat_lt
  rcases CharSet.spanCount_eq (byteSpan s) with ⟨-, -, beyond⟩ | ⟨count, -⟩
  · simp only [byteSpan] at beyond
    omega
  · exact count

theorem byteCount?_eq (order : s.1 ≤ s.2) :
    byteCount? s = some (.ofNat (CharSet.spanCount (byteSpan s))) := by
  have last := s.2.toNat_lt
  rw [UInt8.le_iff_toNat_le] at order
  rw [byteCount?, ← UInt32.ofNat_uInt8ToNat, ← UInt32.ofNat_uInt8ToNat, sub?_ofNat order (by omega),
    spanCount_byteSpan]
  exact add?_ofNat (n := 1) (by omega)

theorem byteAt?_ofNat (order : s.1 ≤ s.2) (place : Nat)
    (inside : place < CharSet.spanCount (byteSpan s)) :
    (byteAt? s (.ofNat place)).map Char.ofUInt8 = CharSet.spanAt? (byteSpan s) place := by
  have last := s.2.toNat_lt
  rw [spanCount_byteSpan] at inside
  rw [UInt8.le_iff_toNat_le] at order
  have small : (UInt32.ofNat (s.1.toNat + place)).toNat = s.1.toNat + place :=
    UInt32.toNat_ofNat_of_lt' (show s.1.toNat + place < 2 ^ 32 by omega)
  have valid : (s.1.toNat + place).isValidChar := .inl (by omega)
  rw [byteAt?, ← UInt32.ofNat_uInt8ToNat, add?_ofNat (by omega)]
  simp only [Option.bind_eq_bind, Option.bind_some, small]
  rw [if_pos (show s.1.toNat + place < 2 ^ 8 by omega), Option.map_some,
    CharSet.spanAt?_eq valid (.inr ⟨rfl, by simp only [byteSpan]; omega⟩), Option.some_inj,
    ← Char.toNat_inj]
  change (UInt32.ofNat _).toUInt8.toNat = s.1.toNat + place
  rw [UInt32.toNat_toUInt8, small]
  omega

end

end Checked

/-! ## Classes of characters and of bytes -/

namespace CharSet

open Pattern (drawMember)

/-- The spans with words for their ends. -/
def words (a : CharSet) : List (UInt32 × UInt32) := a.spans.map fun s => (.ofNat s.1, .ofNat s.2)

/-- The characters that bytes in some spans stand for. -/
def ofBytes (spans : List (UInt8 × UInt8)) : CharSet := ⟨spans.map Checked.byteSpan⟩

/-- What taking members by their places comes to, where `total` and `pick` are computed in words. -/
structure Enumerates (a : CharSet) (members : Set Char) (total : Option UInt32)
    (pick : UInt32 → Option Char) : Prop where
  /-- The places below the number of members lead to every member exactly once. -/
  places : Set.BijOn a.get? (Set.Iio a.count) (some '' members)
  /-- The number of members is counted without leaving the words. -/
  counted : ∃ n, total = some n ∧ n.toNat = a.count
  /-- The member at a place is found without leaving the words, and there is one. -/
  picked : ∀ place : UInt32, place.toNat < a.count →
    ∃ c ∈ members, pick place = some c ∧ a.get? place.toNat = some c
  /-- A draw gives one member, at a place drawn below their number. -/
  drawn : ∀ {σ : Type} [RandomSource σ] (s : σ), ∃ place s' c, c ∈ members ∧
    (Random.below32 a.count).runFrom s = (.ok place, s') ∧ a.get? place = some c ∧
      (drawMember a).runFrom s = (.ok [c], s')

theorem count_pos {a : CharSet} (ends : a.HasEnds) (nonempty : a.spans ≠ []) : 0 < a.count := by
  refine Nat.pos_of_ne_zero fun zero => nonempty ?_
  simpa [isEmpty] using (isEmpty_iff_count_eq_zero ends).mpr zero

theorem drawMember_run {a : CharSet} (ends : a.HasEnds) (nonempty : a.spans ≠ []) {σ : Type}
    [RandomSource σ] (s : σ) : ∃ place s' c, a.contains c.toNat = true ∧
      (Random.below32 a.count).runFrom s = (.ok place, s') ∧ a.get? place = some c ∧
        (drawMember a).runFrom s = (.ok [c], s') := by
  have positive := count_pos ends nonempty
  obtain ⟨place, s', run, -⟩ := Random.below32_total Gen.kept_true positive s trivial
  obtain ⟨c, found, member⟩ := get?_eq_some ends (Random.below32_yields a.count run)
  refine ⟨place, s', c, member, run, found, ?_⟩
  rw [drawMember, if_neg positive.ne', Gen.runFrom_bind, run]
  simp only [Gen.runFrom_pure, found, Option.toList_some]

/-- Counting and picking in words, told from what both do with numbers. -/
theorem enumerates {a : CharSet} (ends : a.HasEnds) (apart : a.Apart) (nonempty : a.spans ≠ [])
    {members : Set Char} (same : ∀ c : Char, c ∈ members ↔ a.contains c.toNat = true)
    {total : Option UInt32} (counted : total = some (.ofNat a.count)) {pick : UInt32 → Option Char}
    (picked : ∀ place < a.count, pick (.ofNat place) = a.get? place) :
    Enumerates a members total pick where
  places := by
    have all : members = {c : Char | a.contains c.toNat = true} := Set.ext same
    exact all ▸ get?_bijOn ends apart
  counted := by
    have most := count_le_of_apart ends apart
    exact ⟨_, counted, UInt32.toNat_ofNat_of_lt' (show a.count < 2 ^ 32 by omega)⟩
  picked place inside := by
    obtain ⟨c, found, member⟩ := get?_eq_some ends inside
    have reached := picked place.toNat inside
    rw [UInt32.ofNat_toNat] at reached
    exact ⟨c, (same c).mpr member, reached.trans found, found⟩
  drawn s := by
    obtain ⟨place, s', c, member, run⟩ := drawMember_run ends nonempty s
    exact ⟨place, s', c, (same c).mpr member, run⟩

/-- The numbers that the ends of a span are. -/
def ofWords (s : UInt32 × UInt32) : Nat × Nat := (s.1.toNat, s.2.toNat)

theorem ofWords_ofNat {s : Nat × Nat} (span : IsSpan s) : ofWords (.ofNat s.1, .ofNat s.2) = s := by
  rw [isSpan_iff] at span
  exact Prod.ext (UInt32.toNat_ofNat_of_lt' (show s.1 < 2 ^ 32 by omega))
    (UInt32.toNat_ofNat_of_lt' (show s.2 < 2 ^ 32 by omega))

theorem map_words {a : CharSet} (ends : a.HasEnds) : a.words.map ofWords = a.spans := by
  rw [words, List.map_map]
  exact (List.map_congr_left fun s listed => ofWords_ofNat (ends s listed)).trans a.spans.map_id

theorem enumerates_words {a : CharSet} (ends : a.HasEnds) (apart : a.Apart) (nonempty : a.spans ≠ []) :
    Enumerates a {c | a.contains c.toNat = true} (Checked.total? Checked.spanCount? a.words)
      (Checked.at? Checked.spanCount? Checked.spanAt? a.words) := by
  have numbers := map_words ends
  have fits : countOf (a.words.map ofWords) < 2 ^ 32 := by
    have most : countOf a.spans ≤ 0x110000 := count_le_of_apart ends apart
    rw [numbers]
    omega
  have counts : ∀ s ∈ a.words, Checked.spanCount? s = some (.ofNat (spanCount (ofWords s))) := by
    intro s listed
    obtain ⟨t, member, rfl⟩ := List.mem_map.mp listed
    rw [ofWords_ofNat (ends t member)]
    exact Checked.spanCount?_ofNat (ends t member)
  have members : ∀ s ∈ a.words, ∀ place < spanCount (ofWords s),
      (Checked.spanAt? s (.ofNat place)).map id = spanAt? (ofWords s) place := by
    intro s listed place inside
    obtain ⟨t, member, rfl⟩ := List.mem_map.mp listed
    rw [ofWords_ofNat (ends t member)] at inside ⊢
    rw [Option.map_id_apply]
    exact Checked.spanAt?_ofNat (ends t member) inside
  have counted := Checked.total?_eq counts fits
  have picked := Checked.at?_eq counts members fits
  simp only [numbers, Option.map_id_apply] at counted picked
  exact enumerates ends apart nonempty (fun c => Iff.rfl) counted picked

section

variable {spans : List (UInt8 × UInt8)}

theorem ofBytes_ends (ordered : ∀ s ∈ spans, s.1 ≤ s.2) : (ofBytes spans).HasEnds := by
  intro s listed
  obtain ⟨t, member, rfl⟩ := List.mem_map.mp listed
  exact Checked.isSpan_byteSpan (ordered t member)

theorem ofBytes_apart (apart : spans.Pairwise fun s t => s.2 < t.1 ∨ t.2 < s.1) :
    (ofBytes spans).Apart := by
  refine List.pairwise_map.mpr (apart.imp fun beside => ?_)
  simp only [UInt8.lt_iff_toNat_lt] at beside
  exact beside

/-- The members are the characters of the bytes in the spans. -/
theorem ofBytes_contains (c : Char) : (ofBytes spans).contains c.toNat = true ↔
    c ∈ Char.ofUInt8 '' {b | ∃ s ∈ spans, s.1 ≤ b ∧ b ≤ s.2} := by
  simp only [contains, ofBytes, List.any_map, List.any_eq_true, Function.comp_apply, Bool.and_eq_true,
    decide_eq_true_eq, Set.mem_image, Set.mem_ofPred_eq]
  constructor
  · rintro ⟨s, listed, low, high⟩
    have small : c.toNat < 2 ^ 8 := Nat.lt_of_le_of_lt high s.2.toNat_lt
    have value : (UInt8.ofNat c.toNat).toNat = c.toNat := UInt8.toNat_ofNat_of_lt' small
    refine ⟨.ofNat c.toNat, ⟨s, listed, ?_, ?_⟩, Char.toNat_inj.mp value⟩
    · rw [UInt8.le_iff_toNat_le, value]
      exact low
    · rw [UInt8.le_iff_toNat_le, value]
      exact high
  · rintro ⟨b, ⟨s, listed, low, high⟩, rfl⟩
    rw [UInt8.le_iff_toNat_le] at low high
    exact ⟨s, listed, low, high⟩

theorem enumerates_bytes (ordered : ∀ s ∈ spans, s.1 ≤ s.2)
    (apart : spans.Pairwise fun s t => s.2 < t.1 ∨ t.2 < s.1) (nonempty : spans ≠ []) :
    Enumerates (ofBytes spans) (Char.ofUInt8 '' {b | ∃ s ∈ spans, s.1 ≤ b ∧ b ≤ s.2})
      (Checked.total? Checked.byteCount? spans)
      (fun place => (Checked.at? Checked.byteCount? Checked.byteAt? spans place).map Char.ofUInt8) := by
  have ends := ofBytes_ends ordered
  have apart := ofBytes_apart apart
  have fits : countOf (spans.map Checked.byteSpan) < 2 ^ 32 := by
    have most : countOf (spans.map Checked.byteSpan) ≤ 0x110000 := count_le_of_apart ends apart
    omega
  have counts := fun s listed => Checked.byteCount?_eq (ordered s listed)
  have members := fun s listed => Checked.byteAt?_ofNat (ordered s listed)
  refine enumerates ends apart (by simpa [ofBytes] using nonempty) (fun c => (ofBytes_contains c).symm)
    (Checked.total?_eq counts fits) ?_
  exact Checked.at?_eq counts members fits

end

/-- For spans between characters, and for spans of bytes, that do not overlap, in whatever order: the places below
the number of members lead to every member exactly once, 32 bits are enough to count the members and to find each
of them, and a draw always gives one. -/
theorem places_enumerate :
    (∀ a : CharSet, a.HasEnds → a.Apart → a.spans ≠ [] →
      Enumerates a {c | a.contains c.toNat = true} (Checked.total? Checked.spanCount? a.words)
        (Checked.at? Checked.spanCount? Checked.spanAt? a.words)) ∧
    (∀ spans : List (UInt8 × UInt8), (∀ s ∈ spans, s.1 ≤ s.2) →
      (spans.Pairwise fun s t => s.2 < t.1 ∨ t.2 < s.1) → spans ≠ [] →
      Enumerates (ofBytes spans) (Char.ofUInt8 '' {b | ∃ s ∈ spans, s.1 ≤ b ∧ b ≤ s.2})
        (Checked.total? Checked.byteCount? spans)
        (fun place => (Checked.at? Checked.byteCount? Checked.byteAt? spans place).map Char.ofUInt8)) :=
  ⟨fun _ => enumerates_words, fun _ => enumerates_bytes⟩

/-- A span that reaches across the surrogates and holds the two characters beside them, in front of a lower one;
and two spans of bytes. -/
theorem places_enumerate_across :
    let a : CharSet := ⟨[(0xD7FF, 0xE000), (0x61, 0x63)]⟩
    let spans : List (UInt8 × UInt8) := [(0x61, 0x63), (0x30, 0x39)]
    (a.HasEnds ∧ a.Apart ∧ a.spans ≠ [] ∧ a.count = 5 ∧
      Enumerates a {c | a.contains c.toNat = true} (Checked.total? Checked.spanCount? a.words)
        (Checked.at? Checked.spanCount? Checked.spanAt? a.words)) ∧
    (∀ s ∈ spans, s.1 ≤ s.2) ∧ (spans.Pairwise fun s t => s.2 < t.1 ∨ t.2 < s.1) ∧ spans ≠ [] ∧
      Enumerates (ofBytes spans) (Char.ofUInt8 '' {b | ∃ s ∈ spans, s.1 ≤ b ∧ b ≤ s.2})
        (Checked.total? Checked.byteCount? spans)
        (fun place => (Checked.at? Checked.byteCount? Checked.byteAt? spans place).map Char.ofUInt8) := by
  intro a spans
  have ends : a.HasEnds := show ∀ s ∈ a.spans, IsSpan s by decide
  have apart : a.Apart := show a.spans.Pairwise fun s t => s.2 < t.1 ∨ t.2 < s.1 by decide
  have ordered : ∀ s ∈ spans, s.1 ≤ s.2 := by simp [spans]
  have beside : spans.Pairwise fun s t => s.2 < t.1 ∨ t.2 < s.1 :=
    List.pairwise_pair.mpr (.inr (by decide))
  exact ⟨⟨ends, apart, by decide, by decide, places_enumerate.1 a ends apart (by decide)⟩,
    ordered, beside, by decide, places_enumerate.2 spans ordered beside (by decide)⟩

end CharSet

end MockSchema
