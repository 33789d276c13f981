import MockSchema.Pattern.Meaning
import MockSchema.Pattern.Sample

/-!
# Compiled patterns

A pattern text with the expression it stands for and the settings its texts are drawn with.
-/

namespace MockSchema

structure Pattern where
  text : String
  expr : Pattern.Expr
  settings : Pattern.Settings
  deriving Repr, Inhabited

namespace Pattern

/-- Reads a pattern text; the settings are kept for every text drawn later. -/
def ofText (text : String) (settings : Settings) : Except Error Pattern := do
  let e ← compile text.toList
  return ⟨text, e, settings⟩

/-- A text of the pattern. -/
def draw {σ : Type} [RandomSource σ] (p : Pattern) : Gen σ String := do
  return String.ofList (← p.expr.sample p.settings)

end Pattern

end MockSchema
