import Mathlib.Data.Finset.Dedup
import Mathlib.Data.Finset.Card
import Mathlib.Data.List.Perm.Subperm
import MockSchema.Proofs.KeyOrder
import MockSchema.Value.Basic

/-!
# Entries in order of first appearance

What the entries are after any settings can be told from the settings alone, without going through them one by
one: `FirstSeen` lists what every question about the entries answers. Two objects are equal if they have the same
keys and equal values under each of them; their keys need not be in the same order (`same_object_iff`). Both
together are `Entries.set_in_turn`.
-/

namespace MockSchema

namespace Entries

variable {α : Type}

/-! ## Keys and their values -/

theorem length_keys (m : Entries α) : (keys m).length = m.length := List.length_map Prod.fst

theorem exists_get?_iff (key : String) (m : Entries α) : (∃ v, get? key m = some v) ↔ key ∈ keys m := by
  induction m with
  | nil => simp [get?, keys]
  | cons e rest ih =>
    rw [keys, List.map_cons, List.mem_cons, get?]
    by_cases here : e.1 = key
    · simp [here]
    · rw [if_neg here]
      exact ih.trans (by simp [Ne.symm here, keys])

theorem contains_iff (key : String) (m : Entries α) : contains key m = true ↔ key ∈ keys m := by
  rw [contains, Option.isSome_iff_exists, exists_get?_iff]

/-- Where no key is repeated, every entry is the one that its key leads to. -/
theorem get?_of_mem {m : Entries α} (nodup : (keys m).Nodup) {e : String × α} (member : e ∈ m) :
    get? e.1 m = some e.2 := by
  have found := get?_setAll_of_mem nodup member []
  have same : setAll [] m = m := ofPairs_of_nodup nodup
  rwa [same] at found

/-- What entries answer after pairs have been set in turn, starting from none. -/
structure FirstSeen (pairs : List (String × α)) (m : Entries α) : Prop where
  /-- The keys are the distinct ones, in the order in which they were set first. -/
  keys_eq : keys m = (pairs.map Prod.fst).eraseDups
  nodup : (keys m).Nodup
  /-- A key has the value that it was given last, and none if it was never set. -/
  get_eq : ∀ key, get? key m = lastValue? key pairs
  /-- Going through the entries gives every key with its value. -/
  each : m.map (fun e => (e.1, some e.2)) = (keys m).map fun key => (key, get? key m)
  length_eq : m.length = (pairs.map Prod.fst).toFinset.card
  contains_eq : ∀ key, contains key m = decide (key ∈ pairs.map Prod.fst) ∧
    contains key m = (get? key m).isSome
  /-- Entries that are set again in their order are the same entries. -/
  again : ofPairs m = m

theorem firstSeen (pairs : List (String × α)) : FirstSeen pairs (ofPairs pairs) := by
  have order := keys_ofPairs pairs
  have nodup := nodup_keys_ofPairs pairs
  refine ⟨order, nodup, fun key => ?_, ?_, ?_, fun key => ⟨?_, rfl⟩, ofPairs_of_nodup nodup⟩
  · rw [ofPairs, get?_setAll, get?, Option.or_none]
  · rw [keys, List.map_map]
    refine List.map_congr_left fun e member => ?_
    rw [Function.comp_apply, get?_of_mem nodup member]
  · have members : (keys (ofPairs pairs)).toFinset = (pairs.map Prod.fst).toFinset := by
      ext key
      rw [order, List.mem_toFinset, List.mem_toFinset, List.mem_eraseDups]
    rw [← length_keys, ← List.toFinset_card_of_nodup nodup, members]
  · rw [Bool.eq_iff_iff, contains_iff, order, List.mem_eraseDups, decide_eq_true_iff]

end Entries

namespace Value

open Entries

/-! ## Equality of objects -/

theorem sameFields_iff (a : List (String × Value)) (b : Entries Value) :
    sameFields a b = true ↔ ∀ e ∈ a, ∃ w, get? e.1 b = some w ∧ same e.2 w = true := by
  induction a with
  | nil => simp [sameFields]
  | cons e rest ih =>
    rw [sameFields, Bool.and_eq_true, ih, List.forall_mem_cons]
    refine and_congr_left fun _ => ?_
    cases get? e.1 b <;> simp

/-- The number of keys is compared and each value of the first object is looked up in the second. As no key is
repeated, neither object can have a key that the other one has not. -/
theorem same_object_iff {a b : Entries Value} (first : (keys a).Nodup) (second : (keys b).Nodup) :
    same (.object a) (.object b) = true ↔ (∀ key, key ∈ keys a ↔ key ∈ keys b) ∧
      ∀ key v w, get? key a = some v → get? key b = some w → same v w = true := by
  rw [same, Bool.and_eq_true, beq_iff_eq, sameFields_iff]
  rw [← length_keys a, ← length_keys b]
  constructor
  · rintro ⟨length, fields⟩
    have included : keys a ⊆ keys b := by
      intro key member
      obtain ⟨e, listed, rfl⟩ := List.mem_map.mp member
      obtain ⟨w, found, -⟩ := fields e listed
      exact (exists_get?_iff e.1 b).mp ⟨w, found⟩
    have perm : (keys a).Perm (keys b) :=
      (List.subperm_of_subset first included).perm_of_length_le length.ge
    refine ⟨fun key => perm.mem_iff, fun key v w foundA foundB => ?_⟩
    obtain ⟨w', found, equal⟩ := fields _ (mem_of_get? foundA)
    cases foundB.symm.trans found
    exact equal
  · rintro ⟨members, values⟩
    have perm : (keys a).Perm (keys b) := (List.perm_ext_iff_of_nodup first second).mpr members
    refine ⟨perm.length_eq, fun e listed => ?_⟩
    obtain ⟨w, found⟩ := (exists_get?_iff e.1 b).mpr ((members e.1).mp (List.mem_map_of_mem listed))
    exact ⟨w, found, values e.1 e.2 w (get?_of_mem first listed) found⟩

end Value

/-- Pairs that are set in turn, or collected, are the distinct keys in order of first appearance with the last value
of each. Two objects made so are equal exactly if they have the same keys and equal values under each, whatever
the order in which the keys were first set. -/
theorem Entries.set_in_turn :
    (∀ (α : Type) (pairs : List (String × α)), FirstSeen pairs (setAll [] pairs) ∧
      ofPairs pairs = setAll [] pairs) ∧
    ∀ pairs others : List (String × Value),
      Value.same (.object (ofPairs pairs)) (.object (ofPairs others)) = true ↔
        (∀ key, key ∈ keys (ofPairs pairs) ↔ key ∈ keys (ofPairs others)) ∧
          ∀ key v w, get? key (ofPairs pairs) = some v → get? key (ofPairs others) = some w →
            v.same w = true :=
  ⟨fun _ pairs => ⟨firstSeen pairs, rfl⟩, fun pairs others =>
    Value.same_object_iff (nodup_keys_ofPairs pairs) (nodup_keys_ofPairs others)⟩

end MockSchema
