import MockSchema.Binary64.Shortest

/-!
# Settings for texts from patterns

Repetitions without upper bound stay below a limit, and an optional part appears with a probability.
-/

namespace MockSchema.Pattern

inductive SettingsError where
  | limitTooSmall (maxRepeat : UInt32)
  | notAProbability (probability : Binary64)
  deriving DecidableEq, Repr

def SettingsError.message : SettingsError → String
  | .limitTooSmall n => s!"max_repeat must be at least 2, got {n.toNat}"
  | .notAProbability p =>
    "optional_probability must be within [0, 1], got " ++ String.ofList p.plain

/-- With a limit of two, the least there is, a repetition of at least one has exactly one count. -/
structure Settings where
  maxRepeat : UInt32
  optionalProbability : Binary64
  two_le_maxRepeat : 2 ≤ maxRepeat.toNat
  isProbability : optionalProbability.isProbability = true
  deriving DecidableEq, Repr

namespace Settings

/-- Counts below ten, and an optional part three times out of four. -/
def initial : Settings := ⟨10, ⟨0x3FE8000000000000⟩, by decide, by decide⟩

instance : Inhabited Settings := ⟨initial⟩

/-- Checks the limit first. -/
def of (maxRepeat : UInt32) (probability : Binary64) : Except SettingsError Settings :=
  if h : 2 ≤ maxRepeat.toNat then
    if p : probability.isProbability = true then .ok ⟨maxRepeat, probability, h, p⟩
    else .error (.notAProbability probability)
  else .error (.limitTooSmall maxRepeat)

end Settings

end MockSchema.Pattern
