import MockSchema.CharSet

/-!
# Spans of character sets

Three conditions on the spans of a set, each stronger than the one before: the ends of every span are
characters (`HasEnds`), the spans ascend without meeting (`Proper`), and there is room between them
(`Canonical`). Joining sorted spans makes them canonical; a complement of a canonical set is proper, though
it can lose the room beside the surrogates. Any place in a set whose spans have ends is a member of it
(`get?_eq_some`), and every member has a place (`exists_get?`), which is all that drawing from a set needs.
-/

namespace MockSchema.CharSet

/-- A span between two characters. -/
structure IsSpan (s : Nat × Nat) : Prop where
  first : s.1.isValidChar
  last : s.2.isValidChar
  ordered : s.1 ≤ s.2

/-- Every span lies between two characters. -/
def HasEnds (a : CharSet) : Prop := ∀ s ∈ a.spans, IsSpan s

/-- The spans lie between characters, and each ends before the next begins. -/
structure Proper (a : CharSet) : Prop where
  ends : a.HasEnds
  ascending : a.spans.Pairwise fun s t => s.2 < t.1

/-- The spans lie between characters, and none of them meets the next. -/
structure Canonical (a : CharSet) : Prop where
  ends : a.HasEnds
  apart : a.spans.Pairwise fun s t => s.2 + 1 < t.1

theorem Canonical.proper {a : CharSet} (h : a.Canonical) : a.Proper :=
  ⟨h.ends, h.apart.imp fun room => by omega⟩

theorem isSpan_iff (s : Nat × Nat) :
    IsSpan s ↔ (s.1 < 0xD800 ∨ 0xDFFF < s.1) ∧ (s.2 < 0xD800 ∨ 0xDFFF < s.2) ∧ s.1 ≤ s.2 ∧
      s.2 < 0x110000 := by
  constructor
  · rintro ⟨first, last, ordered⟩
    simp only [Nat.isValidChar] at first last
    omega
  · rintro ⟨first, last, ordered, bound⟩
    refine ⟨?_, ?_, ordered⟩
    · simp only [Nat.isValidChar]
      omega
    · simp only [Nat.isValidChar]
      omega

instance (s : Nat × Nat) : Decidable (IsSpan s) := decidable_of_iff _ (isSpan_iff s).symm

theorem isSpan_char (c : Char) : IsSpan (c.toNat, c.toNat) := ⟨c.valid, c.valid, Nat.le_refl _⟩

theorem next_eq (n : Nat) :
    next n = n + 1 ∧ n ≠ 0xD7FF ∨ next n = 0xE000 ∧ n = 0xD7FF := by
  by_cases edge : n = 0xD7FF
  · exact .inr ⟨by simp [next, edge, surrogateFirst, surrogateLast], edge⟩
  · exact .inl ⟨if_neg (by simp only [surrogateFirst]; omega), edge⟩

theorem previous_eq (n : Nat) :
    previous n = n - 1 ∧ n ≠ 0xE000 ∨ previous n = 0xD7FF ∧ n = 0xE000 := by
  by_cases edge : n = 0xE000
  · exact .inr ⟨by simp [previous, edge, surrogateFirst, surrogateLast], edge⟩
  · exact .inl ⟨if_neg (by simp only [surrogateLast]; omega), edge⟩

/-! ## Joining -/

/-- Two spans of which the second begins in the first, or right behind it, are one span. -/
theorem IsSpan.joined {s t : Nat × Nat} (hs : IsSpan s) (ht : IsSpan t) :
    IsSpan (s.1, max s.2 t.2) := by
  simp only [isSpan_iff] at *
  omega

theorem join_go_ends {s : Nat × Nat} {rest : List (Nat × Nat)} (first : IsSpan s)
    (ends : ∀ t ∈ rest, IsSpan t) : ∀ t ∈ join.go s rest, IsSpan t := by
  induction rest generalizing s with
  | nil => simpa [join.go] using first
  | cons t rest ih =>
    obtain ⟨second, ends⟩ := List.forall_mem_cons.mp ends
    simp only [join.go]
    split
    · exact ih (first.joined second) ends
    · exact List.forall_mem_cons.mpr ⟨first, ih second ends⟩

/-- Joining keeps the order, and leaves room: two spans without room between them become one. -/
theorem join_go_apart {s : Nat × Nat} {rest : List (Nat × Nat)} (first : ∀ t ∈ rest, s.1 ≤ t.1)
    (sorted : rest.Pairwise fun s t => s.1 ≤ t.1) :
    (∀ t ∈ join.go s rest, s.1 ≤ t.1) ∧
      (join.go s rest).Pairwise fun s t => s.2 + 1 < t.1 := by
  induction rest generalizing s with
  | nil => simp [join.go]
  | cons t rest ih =>
    obtain ⟨second, sorted⟩ := List.pairwise_cons.mp sorted
    obtain ⟨start, first⟩ := List.forall_mem_cons.mp first
    simp only [join.go]
    split
    · exact ih first sorted
    · next room =>
      obtain ⟨after, apart⟩ := ih second sorted
      refine ⟨?_, List.pairwise_cons.mpr ⟨fun u member => ?_, apart⟩⟩
      · rintro u (_ | ⟨_, member⟩)
        · exact Nat.le_refl _
        · exact Nat.le_trans start (after u member)
      · have := after u member
        omega

/-- Sorted spans begin one after the other. -/
theorem mergeSort_starts (spans : List (Nat × Nat)) :
    (spans.mergeSort fun s t => s.1 < t.1 || (s.1 == t.1 && s.2 ≤ t.2)).Pairwise
      fun s t => s.1 ≤ t.1 := by
  refine (List.pairwise_mergeSort ?_ ?_ spans).imp ?_
  · simp only [Bool.or_eq_true, Bool.and_eq_true, decide_eq_true_eq, beq_iff_eq]
    omega
  · simp only [Bool.or_eq_true, Bool.and_eq_true, decide_eq_true_eq, beq_iff_eq]
    omega
  · simp only [Bool.or_eq_true, Bool.and_eq_true, decide_eq_true_eq, beq_iff_eq]
    omega

/-- Spans in any order make up a canonical set. -/
theorem ofSpans_canonical {spans : List (Nat × Nat)} (ends : ∀ s ∈ spans, IsSpan s) :
    (ofSpans spans).Canonical := by
  have sorted := mergeSort_starts spans
  unfold ofSpans
  generalize (fun s t : Nat × Nat => s.1 < t.1 || (s.1 == t.1 && s.2 ≤ t.2)) = le at sorted
  have ends : ∀ s ∈ spans.mergeSort le, IsSpan s :=
    fun s member => ends s (List.mem_mergeSort.mp member)
  generalize spans.mergeSort le = all at sorted ends
  cases all with
  | nil => exact ⟨by simp [HasEnds, join], by simp [join]⟩
  | cons s rest =>
    obtain ⟨first, ends⟩ := List.forall_mem_cons.mp ends
    obtain ⟨start, sorted⟩ := List.pairwise_cons.mp sorted
    exact ⟨join_go_ends first ends, (join_go_apart start sorted).2⟩

theorem HasEnds.canonical {a : CharSet} (h : a.HasEnds) : a.canonical.Canonical :=
  ofSpans_canonical h

theorem unions_canonical {sets : List CharSet} (h : ∀ a ∈ sets, a.HasEnds) :
    (unions sets).Canonical := by
  refine ofSpans_canonical fun s member => ?_
  obtain ⟨a, listed, member⟩ := List.mem_flatMap.mp member
  exact h a listed s member

theorem union_canonical {a b : CharSet} (ha : a.HasEnds) (hb : b.HasEnds) :
    (a.union b).Canonical := by
  refine ofSpans_canonical fun s member => ?_
  rcases List.mem_append.mp member with member | member
  · exact ha s member
  · exact hb s member

theorem empty_canonical : empty.Canonical := ⟨by simp [HasEnds, empty], by simp [empty]⟩

theorem one_canonical {s : Nat × Nat} (h : IsSpan s) : Canonical ⟨[s]⟩ :=
  ⟨by simpa [HasEnds] using h, by simp⟩

/-! ## Meeting and cutting -/

theorem inter_ends {a b : CharSet} (ha : a.HasEnds) (hb : b.HasEnds) : (a.inter b).HasEnds := by
  intro u member
  simp only [inter, List.mem_flatMap, List.mem_filterMap] at member
  obtain ⟨s, hs, t, ht, piece⟩ := member
  have hs := ha s hs
  have ht := hb t ht
  split at piece
  · cases piece
    simp only [isSpan_iff] at *
    omega
  · cases piece

theorem cut_ends {s t : Nat × Nat} (hs : IsSpan s) (ht : IsSpan t) : ∀ u ∈ cut s t, IsSpan u := by
  simp only [isSpan_iff] at hs ht
  intro u member
  simp only [cut] at member
  split at member
  · cases List.mem_singleton.mp member
    exact (isSpan_iff s).mpr hs
  · rw [isSpan_iff]
    rcases List.mem_append.mp member with member | member
    · split at member
      · cases List.mem_singleton.mp member
        have := previous_eq t.1
        omega
      · cases member
    · split at member
      · cases List.mem_singleton.mp member
        have := next_eq t.2
        omega
      · cases member

theorem diff_ends {a b : CharSet} (ha : a.HasEnds) (hb : b.HasEnds) : (a.diff b).HasEnds := by
  have pieces : ∀ (cuts : List (Nat × Nat)) (all : List (Nat × Nat)), (∀ t ∈ cuts, IsSpan t) →
      (∀ s ∈ all, IsSpan s) →
      ∀ u ∈ cuts.foldl (fun pieces t => pieces.flatMap (cut · t)) all, IsSpan u := by
    intro cuts
    induction cuts with
    | nil => exact fun all _ h => h
    | cons t cuts ih =>
      intro all hcuts hall
      obtain ⟨ht, hcuts⟩ := List.forall_mem_cons.mp hcuts
      refine ih _ hcuts fun u member => ?_
      obtain ⟨s, hs, member⟩ := List.mem_flatMap.mp member
      exact cut_ends (hall s hs) ht u member
  intro u member
  obtain ⟨s, hs, member⟩ := List.mem_flatMap.mp member
  exact pieces b.spans [s] hb (by simpa using ha s hs) u member

theorem symmDiff_ends {a b : CharSet} (ha : a.HasEnds) (hb : b.HasEnds) :
    (a.symmDiff b).HasEnds :=
  diff_ends (union_canonical ha hb).ends (inter_ends ha hb)

/-! ## Complements -/

/-- Where a gap begins and ends beside the spans around it. It reaches into them only across the
surrogates, where it takes in the last character before and the first one behind. -/
theorem gap_ends {s t : Nat × Nat} (hs : IsSpan s) (ht : IsSpan t) (apart : s.2 + 1 < t.1) :
    let low := min (next s.2) (previous t.1)
    let high := max (next s.2) (previous t.1)
    IsSpan (low, high) ∧ (s.2 < low ∨ s.2 = low ∧ s.2 = 0xD7FF) ∧
      (high < t.1 ∨ high = t.1 ∧ t.1 = 0xE000) := by
  have after := next_eq s.2
  have before := previous_eq t.1
  simp only [isSpan_iff] at *
  omega

theorem gaps_proper {last : Nat} (valid : last.isValidChar) {s : Nat × Nat}
    {rest : List (Nat × Nat)} (ends : ∀ t ∈ s :: rest, IsSpan t)
    (apart : (s :: rest).Pairwise fun s t => s.2 + 1 < t.1) :
    (∀ u ∈ gaps last (s :: rest), IsSpan u ∧ (s.2 < u.1 ∨ s.2 = u.1 ∧ s.2 = 0xD7FF)) ∧
      (gaps last (s :: rest)).Pairwise fun s t => s.2 < t.1 := by
  induction rest generalizing s with
  | nil =>
    obtain ⟨hs, -⟩ := List.forall_mem_cons.mp ends
    simp only [gaps]
    split
    · next below =>
      have after := next_eq s.2
      simp only [isSpan_iff, Nat.isValidChar] at *
      refine ⟨?_, by simp⟩
      simp only [List.mem_singleton, forall_eq]
      omega
    · simp
  | cons t rest ih =>
    obtain ⟨hs, ends⟩ := List.forall_mem_cons.mp ends
    obtain ⟨first, apart⟩ := List.pairwise_cons.mp apart
    obtain ⟨behind, ascending⟩ := ih ends apart
    have ht := ends t (by simp)
    obtain ⟨gap, low, high⟩ := gap_ends hs ht (first t (by simp))
    have ordered := hs.ordered
    have ordered' := ht.ordered
    simp only [gaps]
    refine ⟨List.forall_mem_cons.mpr ⟨⟨gap, low⟩, fun u member => ?_⟩,
      List.pairwise_cons.mpr ⟨fun u member => ?_, ascending⟩⟩
    · obtain ⟨span, start⟩ := behind u member
      have := first t (by simp)
      exact ⟨span, by omega⟩
    · obtain ⟨span, start⟩ := behind u member
      omega

/-- The characters that are not in a canonical set ascend without meeting. -/
theorem complement_proper {last : Nat} (valid : last.isValidChar) {a : CharSet}
    (h : a.Canonical) : (a.complement last).Proper := by
  obtain ⟨ends, apart⟩ := h
  obtain ⟨spans⟩ := a
  cases spans with
  | nil =>
    refine ⟨?_, by simp [complement]⟩
    simp only [complement, HasEnds, List.mem_singleton, forall_eq]
    exact ⟨.inl (by simp), valid, Nat.zero_le _⟩
  | cons s rest =>
    obtain ⟨behind, ascending⟩ := gaps_proper valid ends apart
    have hs := ends s (by simp)
    simp only [isSpan_iff] at hs
    have front : ∀ u ∈ (if 0 < s.1 then [(0, previous s.1)] else []), IsSpan u ∧ u.2 < s.1 := by
      intro u member
      split at member
      · cases List.mem_singleton.mp member
        have before := previous_eq s.1
        simp only [isSpan_iff]
        omega
      · cases member
    refine ⟨?_, ?_⟩
    · intro u member
      rcases List.mem_append.mp member with member | member
      · exact (front u member).1
      · exact (behind u member).1
    · refine List.pairwise_append.mpr ⟨by split <;> simp, ascending, fun u hu v hv => ?_⟩
      have := (front u hu).2
      have := (behind v hv).2
      omega

/-! ## Places -/

theorem spanCount_eq (s : Nat × Nat) :
    spanCount s = s.2 - s.1 + 1 - 0x800 ∧ s.1 < 0xD800 ∧ 0xDFFF < s.2 ∨
      spanCount s = s.2 - s.1 + 1 ∧ ¬ (s.1 < 0xD800 ∧ 0xDFFF < s.2) := by
  unfold spanCount
  split
  · next across => exact .inl ⟨rfl, across⟩
  · next beside => exact .inr ⟨rfl, beside⟩

/-- The code point at a place of a span; the surrogates are stepped over. -/
theorem spanAt?_eq {s : Nat × Nat} {place n : Nat} (valid : n.isValidChar)
    (code : (n = s.1 + place + 0x800 ∧ s.1 < 0xD800 ∧ 0xD800 ≤ s.1 + place) ∨
      (n = s.1 + place ∧ ¬ (s.1 < 0xD800 ∧ 0xD800 ≤ s.1 + place))) :
    spanAt? s place = some (Char.ofNatAux n valid) := by
  unfold spanAt?
  dsimp only
  rcases code with ⟨rfl, across⟩ | ⟨rfl, beside⟩
  · rw [if_pos (show s.1 < surrogateFirst ∧ surrogateFirst ≤ s.1 + place from across)]
    exact dif_pos valid
  · rw [if_neg (show ¬ (s.1 < surrogateFirst ∧ surrogateFirst ≤ s.1 + place) from beside)]
    exact dif_pos valid

/-- The character at a place of a span lies in it. -/
theorem spanAt?_eq_some {s : Nat × Nat} (h : IsSpan s) {place : Nat} (inside : place < spanCount s) :
    ∃ c, spanAt? s place = some c ∧ s.1 ≤ c.toNat ∧ c.toNat ≤ s.2 := by
  simp only [isSpan_iff] at h
  have count := spanCount_eq s
  by_cases across : s.1 < 0xD800 ∧ 0xD800 ≤ s.1 + place
  · have valid : (s.1 + place + 0x800).isValidChar := by
      simp only [Nat.isValidChar]
      omega
    refine ⟨_, spanAt?_eq valid (.inl ⟨rfl, across⟩), ?_⟩
    change s.1 ≤ s.1 + place + 0x800 ∧ s.1 + place + 0x800 ≤ s.2
    omega
  · have valid : (s.1 + place).isValidChar := by
      simp only [Nat.isValidChar]
      omega
    refine ⟨_, spanAt?_eq valid (.inr ⟨rfl, across⟩), ?_⟩
    change s.1 ≤ s.1 + place ∧ s.1 + place ≤ s.2
    omega

/-- Every place below the number of members has a member. -/
theorem get?_eq_some {a : CharSet} (h : a.HasEnds) {place : Nat} (inside : place < a.count) :
    ∃ c, a.get? place = some c ∧ a.contains c.toNat = true := by
  obtain ⟨spans⟩ := a
  simp only [get?, count, contains, HasEnds] at *
  induction spans generalizing place with
  | nil => simp [countOf] at inside
  | cons s rest ih =>
    obtain ⟨hs, h⟩ := List.forall_mem_cons.mp h
    simp only [at?, countOf] at inside ⊢
    split
    · next first =>
      obtain ⟨c, found, low, high⟩ := spanAt?_eq_some hs first
      exact ⟨c, found, by simp [low, high]⟩
    · next later =>
      have inside : place - spanCount s < countOf rest := by omega
      obtain ⟨c, found, member⟩ := ih h inside
      exact ⟨c, found, by simp [member]⟩

/-- Every character in a span has a place there. -/
theorem exists_spanAt? {s : Nat × Nat} (h : IsSpan s) {c : Char} (low : s.1 ≤ c.toNat)
    (high : c.toNat ≤ s.2) : ∃ place < spanCount s, spanAt? s place = some c := by
  have valid : c.toNat.isValidChar := c.valid
  have found : some (Char.ofNatAux c.toNat valid) = some c := rfl
  have count := spanCount_eq s
  have code : c.toNat < 0xD800 ∨ 0xDFFF < c.toNat := valid.imp id And.left
  simp only [isSpan_iff] at h
  by_cases across : s.1 < 0xD800 ∧ 0xDFFF < c.toNat
  · refine ⟨c.toNat - s.1 - 0x800, by omega, ?_⟩
    rw [spanAt?_eq valid (.inl (by omega)), found]
  · refine ⟨c.toNat - s.1, by omega, ?_⟩
    rw [spanAt?_eq valid (.inr (by omega)), found]

/-- Every member of a set has a place. -/
theorem exists_get? {a : CharSet} (h : a.HasEnds) {c : Char} (member : a.contains c.toNat = true) :
    ∃ place < a.count, a.get? place = some c := by
  obtain ⟨spans⟩ := a
  simp only [get?, count, contains, HasEnds] at *
  induction spans with
  | nil => simp at member
  | cons s rest ih =>
    obtain ⟨hs, h⟩ := List.forall_mem_cons.mp h
    simp only [List.any_cons, Bool.or_eq_true, Bool.and_eq_true, decide_eq_true_eq] at member
    simp only [at?, countOf]
    rcases member with ⟨low, high⟩ | later
    · obtain ⟨place, inside, found⟩ := exists_spanAt? hs low high
      exact ⟨place, by omega, by rw [if_pos inside, found]⟩
    · obtain ⟨place, inside, found⟩ := ih h later
      refine ⟨spanCount s + place, by omega, ?_⟩
      rw [if_neg (by omega), Nat.add_sub_cancel_left, found]

theorem spanCount_pos {s : Nat × Nat} (h : IsSpan s) : 0 < spanCount s := by
  have count := spanCount_eq s
  simp only [isSpan_iff] at h
  omega

/-- Only the empty set has no members. -/
theorem isEmpty_iff_count_eq_zero {a : CharSet} (h : a.HasEnds) :
    a.isEmpty = true ↔ a.count = 0 := by
  obtain ⟨spans⟩ := a
  cases spans with
  | nil => simp [count, countOf, isEmpty]
  | cons s rest =>
    have := spanCount_pos (h s (by simp))
    simp only [count, countOf, isEmpty, List.isEmpty_cons, Bool.false_eq_true, false_iff]
    omega

/-- A proper set has no more members than there are code points. -/
theorem count_le {a : CharSet} (h : a.Proper) : a.count ≤ 0x110000 := by
  obtain ⟨spans⟩ := a
  obtain ⟨ends, ascending⟩ := h
  simp only [HasEnds, count] at *
  have above : ∀ start, (∀ s ∈ spans, start ≤ s.1) → start ≤ 0x110000 →
      countOf spans + start ≤ 0x110000 := by
    induction spans with
    | nil => simp [countOf]
    | cons s rest ih =>
      intro start least _
      obtain ⟨hs, ends⟩ := List.forall_mem_cons.mp ends
      obtain ⟨after, ascending⟩ := List.pairwise_cons.mp ascending
      have := ih ends ascending (s.2 + 1) after
      have := least s (by simp)
      have count := spanCount_eq s
      simp only [isSpan_iff] at hs
      simp only [countOf]
      omega
  simpa using above 0 (by simp) (by simp)

end MockSchema.CharSet
