import MockSchema.Entries

/-!
# Registries

A registry gives names their handles. Registering a name again replaces its handle; the names are listed
in order.
-/

namespace MockSchema

structure Registry (η : Type u) where
  entries : Entries η
  deriving Repr, Inhabited

namespace Registry

variable {η : Type u}

def empty : Registry η := ⟨[]⟩

def ofPairs (pairs : List (String × η)) : Registry η := ⟨Entries.ofPairs pairs⟩

def get? (r : Registry η) (name : String) : Option η := Entries.get? name r.entries

def contains (r : Registry η) (name : String) : Bool := (r.get? name).isSome

/-- Gives a name its handle, the last one registered. -/
def register (r : Registry η) (name : String) (handle : η) : Registry η :=
  ⟨Entries.set name handle r.entries⟩

/-- Registers everything from another registry. -/
def merge (r other : Registry η) : Registry η := ⟨Entries.setAll r.entries other.entries⟩

def size (r : Registry η) : Nat := r.entries.length

def isEmpty (r : Registry η) : Bool := r.entries.isEmpty

/-- The registered names in ascending order. -/
def names (r : Registry η) : List String :=
  (Entries.keys r.entries).mergeSort fun a b => decide (a ≤ b)

@[simp] theorem get?_register_self (r : Registry η) (name : String) (handle : η) :
    (r.register name handle).get? name = some handle :=
  Entries.get?_set_self name handle r.entries

theorem get?_register_of_ne (r : Registry η) {name other : String} (h : other ≠ name) (handle : η) :
    (r.register name handle).get? other = r.get? other :=
  Entries.get?_set_of_ne h handle r.entries

end Registry

end MockSchema
