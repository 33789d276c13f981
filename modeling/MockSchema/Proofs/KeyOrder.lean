import Mathlib.Data.List.Induction
import MockSchema.Entries

/-!
# Keys of entries that are set in turn

After any number of settings the keys are the distinct ones in the order in which they were first set, and
each key has the value that it was given last.
-/

namespace MockSchema.Entries

variable {α : Type}

theorem setAll_append (m : Entries α) (pairs others : List (String × α)) :
    setAll m (pairs ++ others) = setAll (setAll m pairs) others := by
  simp [setAll]

/-- One more key at the end is a new one or one of the keys before it. -/
theorem eraseDups_append_singleton (keys : List String) (key : String) :
    (keys ++ [key]).eraseDups = if key ∈ keys then keys.eraseDups else keys.eraseDups ++ [key] := by
  rw [List.eraseDups_append]
  by_cases known : key ∈ keys <;> simp [List.removeAll, List.eraseDups_cons, known]

/-- By induction on the pairs from the last one on, since a setting changes the entries at their end. -/
theorem keys_ofPairs (pairs : List (String × α)) :
    keys (ofPairs pairs) = (pairs.map Prod.fst).eraseDups := by
  induction pairs using List.reverseRecOn with
  | nil => rfl
  | append_singleton pairs p ih =>
    unfold ofPairs at ih ⊢
    rw [setAll_append, List.map_append, List.map_singleton, eraseDups_append_singleton]
    change keys (set p.1 p.2 _) = _
    rw [keys_set, ih]
    simp only [List.mem_eraseDups]

/-- The value that a key is given last. -/
def lastValue? (key : String) (pairs : List (String × α)) : Option α :=
  (pairs.reverse.find? fun p => p.1 = key).map Prod.snd

theorem lastValue?_append (key : String) (pairs others : List (String × α)) :
    lastValue? key (pairs ++ others) = (lastValue? key others).or (lastValue? key pairs) := by
  rw [lastValue?, List.reverse_append, List.find?_append, Option.map_or]
  rfl

/-- A key has the value that it was given last, or else the one that it had before. -/
theorem get?_setAll (key : String) (pairs : List (String × α)) (m : Entries α) :
    get? key (setAll m pairs) = (lastValue? key pairs).or (get? key m) := by
  induction pairs using List.reverseRecOn with
  | nil => rfl
  | append_singleton pairs p ih =>
    rw [setAll_append, lastValue?_append]
    change get? key (set p.1 p.2 _) = _
    by_cases same : p.1 = key
    · subst same
      simp [lastValue?]
    · rw [get?_set_of_ne (Ne.symm same), ih]
      simp [lastValue?, same]

theorem get?_setAll_of_notMem {key : String} {pairs : List (String × α)}
    (absent : key ∉ pairs.map Prod.fst) (m : Entries α) :
    get? key (setAll m pairs) = get? key m := by
  have never : lastValue? key pairs = none := by
    rw [lastValue?, Option.map_eq_none_iff, List.find?_eq_none]
    intro p member same
    rw [decide_eq_true_iff] at same
    exact absent (same ▸ List.mem_map_of_mem (List.mem_reverse.mp member))
  rw [get?_setAll, never, Option.none_or]

/-- The last pair with a key decides on its value. -/
theorem get?_setAll_last {key : String} {after : List (String × α)} (absent : key ∉ after.map Prod.fst)
    (m : Entries α) (before : List (String × α)) (value : α) :
    get? key (setAll m (before ++ (key, value) :: after)) = some value := by
  rw [setAll_append]
  change get? key (setAll (set key value _) after) = _
  rw [get?_setAll_of_notMem absent, get?_set_self]

theorem get?_ofPairs_last {key : String} {after : List (String × α)}
    (absent : key ∉ after.map Prod.fst) (before : List (String × α)) (value : α) :
    get? key (ofPairs (before ++ (key, value) :: after)) = some value :=
  get?_setAll_last absent [] before value

theorem set_of_notMem {key : String} {m : Entries α} (absent : key ∉ keys m) (value : α) :
    set key value m = m ++ [(key, value)] := by
  induction m with
  | nil => rfl
  | cons e rest ih =>
    rw [keys, List.map_cons, List.mem_cons, not_or] at absent
    rw [set, if_neg (Ne.symm absent.1), ih absent.2, List.cons_append]

/-- Pairs with different keys are entries as they are. -/
theorem ofPairs_of_nodup {pairs : List (String × α)} (nodup : (pairs.map Prod.fst).Nodup) :
    ofPairs pairs = pairs := by
  induction pairs using List.reverseRecOn with
  | nil => rfl
  | append_singleton pairs p ih =>
    rw [List.map_append, List.map_singleton, List.nodup_append] at nodup
    have before := ih nodup.1
    have absent : p.1 ∉ keys pairs :=
      fun member => nodup.2.2 p.1 member p.1 (List.mem_singleton_self _) rfl
    unfold ofPairs at before ⊢
    rw [setAll_append, before]
    exact set_of_notMem absent p.2

/-- Setting a key repeats none. -/
theorem nodup_keys_set {m : Entries α} (nodup : (keys m).Nodup) (key : String) (value : α) :
    (keys (set key value m)).Nodup := by
  rw [keys_set]
  split
  · exact nodup
  · next absent =>
    refine List.nodup_append.mpr ⟨nodup, by simp, ?_⟩
    rintro k member _ new rfl
    exact absent (List.mem_singleton.mp new ▸ member)

theorem nodup_keys_setAll {m : Entries α} (nodup : (keys m).Nodup) (pairs : List (String × α)) :
    (keys (setAll m pairs)).Nodup := by
  induction pairs generalizing m with
  | nil => exact nodup
  | cons p rest ih => exact ih (nodup_keys_set nodup p.1 p.2)

theorem nodup_keys_ofPairs (pairs : List (String × α)) : (keys (ofPairs pairs)).Nodup :=
  nodup_keys_setAll (m := []) List.nodup_nil pairs

/-- Pairs with different keys give each key its value, whatever it had before. -/
theorem get?_setAll_of_mem {pairs : List (String × α)} (nodup : (pairs.map Prod.fst).Nodup)
    {p : String × α} (member : p ∈ pairs) (m : Entries α) : get? p.1 (setAll m pairs) = some p.2 := by
  obtain ⟨before, after, rfl⟩ := List.append_of_mem member
  have absent : p.1 ∉ after.map Prod.fst := by
    rw [List.map_append, List.map_cons, List.nodup_append] at nodup
    exact (List.nodup_cons.mp nodup.2.1).1
  exact get?_setAll_last absent m before p.2

theorem mem_of_get? {key : String} {value : α} {m : Entries α} (found : get? key m = some value) :
    (key, value) ∈ m := by
  induction m with
  | nil => cases found
  | cons e rest ih =>
    unfold get? at found
    split at found
    · next same =>
      cases found
      exact same ▸ List.mem_cons_self
    · exact List.mem_cons_of_mem e (ih found)

theorem mem_set {e : String × α} {key : String} {value : α} {m : Entries α}
    (member : e ∈ set key value m) : e = (key, value) ∨ e ∈ m := by
  induction m with
  | nil => exact .inl (List.mem_singleton.mp member)
  | cons d rest ih =>
    unfold set at member
    split at member
    · exact (List.mem_cons.mp member).imp_right (List.mem_cons_of_mem d)
    · rcases List.mem_cons.mp member with rfl | behind
      · exact .inr List.mem_cons_self
      · exact (ih behind).imp_right (List.mem_cons_of_mem d)

/-- Whatever is in entries after settings was there before or was set. -/
theorem mem_setAll {e : String × α} {m : Entries α} {pairs : List (String × α)}
    (member : e ∈ setAll m pairs) : e ∈ m ∨ e ∈ pairs := by
  induction pairs generalizing m with
  | nil => exact .inl member
  | cons p rest ih =>
    rcases ih member with before | behind
    · rcases mem_set before with rfl | old
      · exact .inr List.mem_cons_self
      · exact .inl old
    · exact .inr (List.mem_cons_of_mem p behind)

end MockSchema.Entries
