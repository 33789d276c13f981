import Mathlib.Computability.Language

/-!
# Languages by their first letter

Products of languages are taken apart from the left: a word of a product begins with the letter that the first
factor asks for, and the rest of it is in what remains of the product.
-/

namespace MockSchema.Words

variable {α : Type} {a b : α} {w : List α} {l m : Language α} {p : α → Bool}

/-- The words of one letter of a class. -/
def oneOf (p : α → Bool) : Language α := {w | ∃ a, w = [a] ∧ p a = true}

theorem mem_letter_iff : w ∈ ({[b]} : Language α) ↔ w = [b] := Iff.rfl

theorem mem_letter_mul_iff : w ∈ ({[b]} : Language α) * l ↔ ∃ v, w = b :: v ∧ v ∈ l := by
  rw [Language.mem_mul]
  constructor
  · rintro ⟨_, rfl, v, inside, rfl⟩
    exact ⟨v, rfl, inside⟩
  · rintro ⟨v, rfl, inside⟩
    exact ⟨[b], rfl, v, inside, rfl⟩

theorem cons_mem_letter_mul_iff : a :: w ∈ ({[b]} : Language α) * l ↔ a = b ∧ w ∈ l := by
  rw [mem_letter_mul_iff]
  constructor
  · rintro ⟨v, same, inside⟩
    obtain ⟨rfl, rfl⟩ := List.cons.inj same
    exact ⟨rfl, inside⟩
  · rintro ⟨rfl, inside⟩
    exact ⟨w, rfl, inside⟩

theorem cons_mem_oneOf_mul_iff : a :: w ∈ oneOf p * l ↔ p a = true ∧ w ∈ l := by
  rw [Language.mem_mul]
  constructor
  · rintro ⟨_, ⟨b, rfl, belongs⟩, v, inside, same⟩
    obtain ⟨rfl, rfl⟩ := List.cons.inj same
    exact ⟨belongs, inside⟩
  · rintro ⟨belongs, inside⟩
    exact ⟨[a], ⟨a, rfl, belongs⟩, w, inside, rfl⟩

theorem mem_optional_mul_iff : w ∈ (1 + l) * m ↔ w ∈ m ∨ w ∈ l * m := by
  rw [add_mul, one_mul, Language.mem_add]

theorem nil_mem_mul_iff : [] ∈ l * m ↔ [] ∈ l ∧ [] ∈ m := by
  rw [Language.mem_mul]
  constructor
  · rintro ⟨u, left, v, right, same⟩
    obtain ⟨rfl, rfl⟩ := List.append_eq_nil_iff.mp same
    exact ⟨left, right⟩
  · rintro ⟨left, right⟩
    exact ⟨[], left, [], right, rfl⟩

end MockSchema.Words
