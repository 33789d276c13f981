/-!
# Steps that can fail

A reader that succeeds is taken apart into its steps, each of them successful, and one that fails into the
steps up to the one that failed. Where what a later step can fail with does not depend on what the earlier ones
give, the fault of all steps is the first one of their faults (`fault?_bind`).
-/

namespace MockSchema

variable {ε α β : Type}

/-- A step after another one succeeds exactly if both do. -/
theorem bind_eq_ok_iff (x : Except ε α) (f : α → Except ε β) (b : β) :
    (x >>= f) = .ok b ↔ ∃ a, x = .ok a ∧ f a = .ok b := by
  cases x with
  | error e => simp [bind, Except.bind]
  | ok a => simp [bind, Except.bind]

/-- A step after another one fails if the first one fails, or if that one succeeds and the second one fails. -/
theorem bind_eq_error_iff (x : Except ε α) (f : α → Except ε β) (e : ε) :
    (x >>= f) = .error e ↔ x = .error e ∨ ∃ a, x = .ok a ∧ f a = .error e := by
  cases x with
  | error e => simp [bind, Except.bind]
  | ok a => simp [bind, Except.bind]

/-- A result that is mapped was there before. -/
theorem map_eq_ok_iff (x : Except ε α) (f : α → β) (b : β) :
    (do return f (← x) : Except ε β) = .ok b ↔ ∃ a, x = .ok a ∧ f a = b := by
  rw [bind_eq_ok_iff]
  simp [pure, Except.pure]

/-- Mapping a result does not fail. -/
theorem map_eq_error_iff (x : Except ε α) (f : α → β) (e : ε) :
    (do return f (← x) : Except ε β) = .error e ↔ x = .error e := by
  rw [bind_eq_error_iff]
  simp [pure, Except.pure]

/-- What a step failed with, if it did. -/
def fault? : Except ε α → Option ε
  | .error e => some e
  | .ok _ => none

@[simp] theorem fault?_error (e : ε) : fault? (.error e : Except ε α) = some e := rfl

@[simp] theorem fault?_ok (a : α) : fault? (.ok a : Except ε α) = none := rfl

theorem fault?_eq_some_iff {x : Except ε α} {e : ε} : fault? x = some e ↔ x = .error e := by
  cases x <;> simp

/-- The first fault counts, if the second step has the same one whatever the first step gives. -/
theorem fault?_bind {x : Except ε α} {f : α → Except ε β} {fault : Option ε}
    (behind : ∀ a, fault? (f a) = fault) : fault? (x >>= f) = (fault? x).or fault := by
  cases x with
  | error e => rfl
  | ok a => exact behind a

theorem fault?_map (x : Except ε α) (f : α → β) : fault? (do return f (← x) : Except ε β) = fault? x := by
  cases x <;> rfl

end MockSchema
