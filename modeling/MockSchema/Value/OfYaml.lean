import MockSchema.Entries
import MockSchema.Text.Integer
import MockSchema.Yaml.Value.Basic

/-!
# Values from YAML values

Scalars that are keys become their text, so two keys of a mapping may become one; the later entry wins. Tags
do not count.
-/

namespace MockSchema

/-- The text of a key; only scalars other than null have one. -/
def Yaml.Value.keyText? : Yaml.Value → Option String
  | .string s => some s
  | .number n => some (String.ofList n.chars)
  | .bool b => some (String.ofList (Value.boolChars b))
  | _ => none

/-- Integers beyond signed words become the nearest float. -/
def Value.ofNumber : Yaml.Number → Value
  | .int i =>
    match Text.toInt64? i with
    | some n => .int n
    | none => .float (Binary64.ofInt i)
  | .float x => .float x

namespace Value

mutual

/-- The value for a YAML value, or the first key that has no text. -/
def ofYaml : Yaml.Value → Except Yaml.Value Value
  | .null => .ok .null
  | .bool b => .ok (.bool b)
  | .number n => .ok (ofNumber n)
  | .string s => .ok (.string s)
  | .sequence items => do return .array (← itemsOfYaml items)
  | .mapping entries => do return .object (Entries.ofPairs (← fieldsOfYaml entries))
  | .tagged _ v => ofYaml v

def itemsOfYaml : List Yaml.Value → Except Yaml.Value (List Value)
  | [] => .ok []
  | v :: rest => do
    let w ← ofYaml v
    let ws ← itemsOfYaml rest
    return w :: ws

/-- Fields for the entries of a mapping; a key is looked at before its value. -/
def fieldsOfYaml : List (Yaml.Value × Yaml.Value) → Except Yaml.Value (List (String × Value))
  | [] => .ok []
  | (k, v) :: rest =>
    match k.keyText? with
    | none => .error k
    | some key => do
      let w ← ofYaml v
      let fields ← fieldsOfYaml rest
      return (key, w) :: fields

end

/-- What a message says about a key without text. -/
def unsupportedKeyText (key : Yaml.Value) : String :=
  "unsupported mapping key " ++ String.ofList key.describe

end Value

end MockSchema
