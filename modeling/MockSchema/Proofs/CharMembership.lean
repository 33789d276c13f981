import Mathlib.Logic.Basic
import MockSchema.Proofs.UnicodeSpans

/-!
# Members of character sets

A set that is made from spans has the members of the spans, in whatever order they come and however they
overlap (`contains_ofSpans`). So whether a character has a property can be read off the tables that the set
of the property is made from, without sorting them.
-/

namespace MockSchema

namespace CharSet

/-- A code point lies in one of some spans. -/
def Covers (spans : List (Nat × Nat)) (n : Nat) : Prop := ∃ s ∈ spans, s.1 ≤ n ∧ n ≤ s.2

theorem contains_iff (a : CharSet) (n : Nat) : a.contains n = true ↔ Covers a.spans n := by
  simp [contains, Covers]

theorem covers_cons_iff (s : Nat × Nat) (rest : List (Nat × Nat)) (n : Nat) :
    Covers (s :: rest) n ↔ (s.1 ≤ n ∧ n ≤ s.2) ∨ Covers rest n := by
  simp [Covers]

/-- Joining spans that are sorted by their start keeps their members: a span is put onto another one only
where no code point lies between them. -/
theorem covers_join_go {s : Nat × Nat} {rest : List (Nat × Nat)} (first : ∀ t ∈ rest, s.1 ≤ t.1)
    (sorted : rest.Pairwise fun s t => s.1 ≤ t.1) (n : Nat) :
    Covers (join.go s rest) n ↔ Covers (s :: rest) n := by
  induction rest generalizing s with
  | nil => rfl
  | cons t rest ih =>
    obtain ⟨second, sorted⟩ := List.pairwise_cons.mp sorted
    obtain ⟨start, first⟩ := List.forall_mem_cons.mp first
    simp only [join.go]
    split
    · next meet =>
      -- the second span begins inside the first one or right behind it, so nothing lies between them
      rw [ih (s := (s.1, max s.2 t.2)) first sorted]
      simp only [covers_cons_iff, ← or_assoc]
      have joined : (s.1 ≤ n ∧ n ≤ max s.2 t.2) ↔ (s.1 ≤ n ∧ n ≤ s.2) ∨ (t.1 ≤ n ∧ n ≤ t.2) := by
        omega
      rw [joined]
    · rw [covers_cons_iff, ih second sorted, covers_cons_iff s]

/-- A set has the members of the spans that it is made from. -/
theorem contains_ofSpans (spans : List (Nat × Nat)) (n : Nat) :
    (ofSpans spans).contains n = true ↔ Covers spans n := by
  have sorted := mergeSort_starts spans
  have same : Covers (spans.mergeSort fun s t => s.1 < t.1 || (s.1 == t.1 && s.2 ≤ t.2)) n ↔
      Covers spans n := by
    simp only [Covers, List.mem_mergeSort]
  rw [contains_iff, ← same]
  unfold ofSpans
  generalize (spans.mergeSort fun s t => s.1 < t.1 || (s.1 == t.1 && s.2 ≤ t.2)) = all at sorted
  cases all with
  | nil => rfl
  | cons s rest =>
    obtain ⟨start, sorted⟩ := List.pairwise_cons.mp sorted
    exact covers_join_go start sorted n

end CharSet

namespace Unicode

open CharSet

/-- A set has the members of the tables that it is made from. -/
theorem contains_ofTables (tables : List (List (Nat × Nat))) (n : Nat) :
    (ofTables tables).contains n = true ↔ ∃ table ∈ tables, Covers table n := by
  rw [ofTables, contains_ofSpans]
  constructor
  · rintro ⟨s, member, inside⟩
    obtain ⟨table, listed, member⟩ := List.mem_flatten.mp member
    exact ⟨table, listed, s, member, inside⟩
  · rintro ⟨table, listed, s, member, inside⟩
    exact ⟨s, List.mem_flatten.mpr ⟨table, listed, member⟩, inside⟩

/-- The tables of the letters and of whatever counts as a letter. -/
def alphabeticTables : List (List (Nat × Nat)) :=
  [lowercaseLetter, otherLowercase, uppercaseLetter, otherUppercase, titlecaseLetter,
    modifierLetter, otherLetter, letterNumber, otherAlphabetic]

theorem isAlphabetic_iff (c : Char) :
    isAlphabetic c = true ↔ ∃ table ∈ alphabeticTables, Covers table c.toNat := by
  have lower : Covers lowercase.spans c.toNat ↔
      ∃ table ∈ [lowercaseLetter, otherLowercase], Covers table c.toNat := by
    rw [← contains_iff, lowercase, contains_ofTables]
  have upper : Covers uppercase.spans c.toNat ↔
      ∃ table ∈ [uppercaseLetter, otherUppercase], Covers table c.toNat := by
    rw [← contains_iff, uppercase, contains_ofTables]
  rw [isAlphabetic, alphabetic, contains_ofTables]
  simp only [List.mem_cons, List.not_mem_nil, or_false, exists_eq_or_imp, exists_eq_left] at lower upper
  simp [alphabeticTables, lower, upper, or_assoc]

theorem isAlphanumeric_iff (c : Char) :
    isAlphanumeric c = true ↔ ∃ table ∈ alphabeticTables ++ [decimalNumber, otherNumber],
      Covers table c.toNat := by
  have digits : number.contains c.toNat = true ↔
      ∃ table ∈ [decimalNumber, letterNumber, otherNumber], Covers table c.toNat := by
    rw [number, contains_ofTables]
  rw [isAlphanumeric, Bool.or_eq_true, isAlphabetic_iff, digits]
  simp only [List.mem_append, or_and_right, exists_or]
  refine or_congr_right' fun absent => ?_
  have other : ¬ Covers letterNumber c.toNat :=
    fun covered => absent ⟨letterNumber, by simp [alphabeticTables], covered⟩
  simp [other]

/-- Whether a character is a letter can be looked up in the tables. -/
theorem isAlphabetic_eq (c : Char) :
    isAlphabetic c = alphabeticTables.any fun table => (CharSet.mk table).contains c.toNat := by
  rw [Bool.eq_iff_iff, isAlphabetic_iff, List.any_eq_true]
  simp only [contains_iff]

/-- Whether a character is a letter or a digit can be looked up in the tables. -/
theorem isAlphanumeric_eq (c : Char) :
    isAlphanumeric c = (alphabeticTables ++ [decimalNumber, otherNumber]).any
      fun table => (CharSet.mk table).contains c.toNat := by
  rw [Bool.eq_iff_iff, isAlphanumeric_iff, List.any_eq_true]
  simp only [contains_iff]

end Unicode

end MockSchema
