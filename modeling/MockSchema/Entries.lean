/-!
# Entries in order of first appearance

A list of keys with values in which a key keeps the place where it was first set. Setting a key again
replaces its value where it stands.
-/

namespace MockSchema

/-- Keys with values, in order of first appearance. -/
abbrev Entries (α : Type u) := List (String × α)

namespace Entries

variable {α : Type u}

/-- A new key goes to the end, a known one takes the new value in its place. -/
def set (key : String) (value : α) : Entries α → Entries α
  | [] => [(key, value)]
  | e :: rest => if e.1 = key then (key, value) :: rest else e :: set key value rest

def get? (key : String) : Entries α → Option α
  | [] => none
  | e :: rest => if e.1 = key then some e.2 else get? key rest

def contains (key : String) (entries : Entries α) : Bool := (get? key entries).isSome

def keys (entries : Entries α) : List String := entries.map Prod.fst

/-- Sets the pairs one after the other, starting from the given entries. -/
def setAll (entries : Entries α) (pairs : List (String × α)) : Entries α :=
  pairs.foldl (fun m p => set p.1 p.2 m) entries

def ofPairs (pairs : List (String × α)) : Entries α := setAll [] pairs

@[simp] theorem get?_set_self (key : String) (value : α) (m : Entries α) :
    get? key (set key value m) = some value := by
  induction m with
  | nil => simp [set, get?]
  | cons e rest ih => by_cases h : e.1 = key <;> simp [set, get?, h, ih]

theorem get?_set_of_ne {key other : String} (h : other ≠ key) (value : α) (m : Entries α) :
    get? other (set key value m) = get? other m := by
  induction m with
  | nil => simp [set, get?, Ne.symm h]
  | cons e rest ih =>
    by_cases hk : e.1 = key
    · simp [set, get?, hk, Ne.symm h]
    · simp [set, get?, hk, ih]

/-- The keys after setting one: unchanged if it was there, otherwise with it at the end. -/
theorem keys_set (key : String) (value : α) (m : Entries α) :
    keys (set key value m) = if key ∈ keys m then keys m else keys m ++ [key] := by
  induction m with
  | nil => simp [set, keys]
  | cons e rest ih =>
    simp only [keys] at ih
    by_cases h : e.1 = key
    · simp [set, keys, h]
    · have h' : key ≠ e.1 := fun h'' => h h''.symm
      simp only [set, h, keys, List.map_cons, ih, List.mem_cons, h', false_or, if_false]
      by_cases hm : key ∈ List.map Prod.fst rest <;> simp [hm]

end Entries

end MockSchema
