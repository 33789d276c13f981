import MockSchema.Generator.Definition
import MockSchema.Yaml.Value.Load

/-!
# Definitions in YAML

A file is a mapping whose entry `generators` maps names to definitions; other entries do not count. A
definition is a mapping with an entry `type`, or a sequence that begins with the type, followed by the fields
in order. Fields of a mapping may be given by number instead of name. Tags that are not part of the language
are refused within definitions.
-/

namespace MockSchema

namespace Definition

open Yaml

/-- The fields of a definition, as entries of a mapping or in order. -/
inductive Fields where
  | named (entries : List (Yaml.Value × Yaml.Value))
  | ordered (values : List Yaml.Value)

/-- The place of a field that a key names by its name or number. A key beyond the fields is skipped, one that
is neither text nor number is an error. -/
def fieldPlace? (names : List String) : Yaml.Value → Option (Option Nat)
  | .string s => some (names.idxOf? s)
  | .number (.int i) =>
    if i < 0 then none else some (if i < names.length then some i.toNat else none)
  | _ => none

/-- Puts entries into the places of their fields; no field may be given twice. -/
def placeEntries (names : List String) (slots : List (Option Yaml.Value)) :
    List (Yaml.Value × Yaml.Value) → Option (List (Option Yaml.Value))
  | [] => some slots
  | (k, v) :: rest => do
    match ← fieldPlace? names k with
    | none => placeEntries names slots rest
    | some i =>
      if (slots[i]?.join).isSome then none
      else placeEntries names (slots.set i (some v)) rest

/-- The values of the named fields, where they are given. -/
def Fields.slots (names : List String) : Fields → Option (List (Option Yaml.Value))
  | .named entries => placeEntries names (names.map fun _ => none) entries
  | .ordered values =>
    if values.length ≤ names.length then
      some (values.map some ++ List.replicate (names.length - values.length) none)
    else none

/-- A definition without fields. Entries of a mapping are skipped. -/
def Fields.none? : Fields → Option Unit
  | .named _ => some ()
  | .ordered values => if values.isEmpty then some () else none

def readInt : Option Yaml.Value → Option Int64
  | some (.number (.int i)) => Text.toInt64? i
  | _ => none

def readFloat : Option Yaml.Value → Option Binary64
  | some (.number (.int i)) => some (Binary64.ofInt i)
  | some (.number (.float x)) => some x
  | _ => none

def readText : Option Yaml.Value → Option String
  | some (.string s) => some s
  | _ => none

def readAny : Option Yaml.Value → Option Yaml.Value
  | some v => if v.isProper then some v else none
  | none => none

def readList : Option Yaml.Value → Option (List Yaml.Value)
  | some (.sequence items) => if items.all Yaml.Value.isProper then some items else none
  | _ => none

/-- A field that may be left out or null. -/
def readOptional {α : Type} (read : Option Yaml.Value → Option α) :
    Option Yaml.Value → Option (Option α)
  | none => some none
  | some .null => some none
  | some v => (read (some v)).map some

def readCount : Option Yaml.Value → Option UInt32
  | some (.number (.int i)) => if 0 ≤ i ∧ i < UInt32.size then some (UInt32.ofNat i.toNat) else none
  | _ => none

/-- The definition of a type with the given fields. -/
def ofFields? (type : String) (fields : Fields) : Option Definition := do
  match type with
  | "uuid_v4" =>
    fields.none?
    return .uuid
  | "timestamp_now" =>
    fields.none?
    return .timestampNow
  | "null" =>
    fields.none?
    return .null
  | "int_range" =>
    let slots ← fields.slots ["min", "max"]
    return .intRange (← readInt slots[0]?.join) (← readInt slots[1]?.join)
  | "float_range" =>
    let slots ← fields.slots ["min", "max"]
    return .floatRange (← readFloat slots[0]?.join) (← readFloat slots[1]?.join)
  | "timestamp_range" =>
    let slots ← fields.slots ["start", "end"]
    return .timestampRange (← readText slots[0]?.join) (← readText slots[1]?.join)
  | "weighted_bool" =>
    let slots ← fields.slots ["true_weight"]
    return .weightedBool (← readFloat slots[0]?.join)
  | "one_of" =>
    let slots ← fields.slots ["values"]
    return .oneOf (← readList slots[0]?.join)
  | "static" =>
    let slots ← fields.slots ["value"]
    return .static (← readAny slots[0]?.join)
  | "regex" =>
    let slots ← fields.slots ["pattern", "max_repeat", "optional_probability"]
    return .regex (← readText slots[0]?.join) (← readOptional readCount slots[1]?.join)
      (← readOptional readFloat slots[2]?.join)
  | _ => none

/-- The text of a scalar, whatever its tag and style. -/
def scalarText (doc : Document) (node : Yaml.Node) : Loader String := do
  match ← doc.follow node with
  | .scalar _ _ text => return String.ofList text
  | _ => failure

/-- Splits the entries of a definition into its type and its fields. -/
def splitType (doc : Document) (depth : Nat) (type : Option String) :
    List (Yaml.Node × Yaml.Node) → Loader (Option String × List (Yaml.Value × Yaml.Value))
  | [] => return (type, [])
  | (k, v) :: rest => do
    match ← doc.load false depth k with
    | .string "type" =>
      if type.isSome then failure
      splitType doc depth (some (← scalarText doc v)) rest
    | key =>
      let value ← doc.load false depth v
      let (type, fields) ← splitType doc depth type rest
      return (type, (key, value) :: fields)

/-- Reads the definition at a node. -/
def ofNode (doc : Document) (depth : Nat) (node : Yaml.Node) : Loader Definition := do
  match ← doc.follow node, depth with
  | .mapping tag entries, depth + 1 =>
    if (localTag? tag).isSome then failure
    let (type, fields) ← splitType doc depth none entries
    ofFields? (← type) (.named fields)
  | .sequence tag (first :: rest), depth + 1 =>
    if (localTag? tag).isSome then failure
    let type ← scalarText doc first
    ofFields? type (.ordered (← rest.mapM (doc.load false depth)))
  | _, _ => failure

/-- The definition that a YAML text holds. -/
def ofYaml? (text : String) : Option Definition := do
  let doc ← Document.ofText? text.toList
  let (d, _) ← (ofNode doc Document.depthLimit (← doc.root)).run 0
  return d

end Definition

namespace DefinitionFile

open Yaml

/-- The entries of a mapping; an empty plain scalar counts as an empty mapping. -/
def entriesOf (doc : Document) (node : Yaml.Node) : Loader (List (Yaml.Node × Yaml.Node)) := do
  match ← doc.follow node with
  | .mapping _ entries => return entries
  | .scalar _ .plain [] => return []
  | _ => failure

def definitionsOf (doc : Document) (depth : Nat) :
    List (Yaml.Node × Yaml.Node) → Loader (List (String × Definition))
  | [] => return []
  | (k, v) :: rest => do
    let name ← Definition.scalarText doc k
    let d ← Definition.ofNode doc depth v
    return (name, d) :: (← definitionsOf doc depth rest)

/-- Looks for the entry with the definitions, which may be left out but not repeated. -/
def findDefinitions (doc : Document) (depth : Nat) (found : Option (List (String × Definition))) :
    List (Yaml.Node × Yaml.Node) → Loader (List (String × Definition))
  | [] => return found.getD []
  | (k, v) :: rest => do
    if (← Definition.scalarText doc k) = "generators" then
      if found.isSome then failure
      let definitions ← definitionsOf doc depth (← entriesOf doc v)
      findDefinitions doc depth (some definitions) rest
    else findDefinitions doc depth found rest

/-- The definitions in a YAML text. An empty text has none. -/
def ofYaml? (text : String) : Option DefinitionFile := do
  let doc ← Document.ofText? text.toList
  match doc.root with
  | none => return ⟨[]⟩
  | some root =>
    let read := do findDefinitions doc (Document.depthLimit - 2) none (← entriesOf doc root)
    let (pairs, _) ← read.run 0
    return ofPairs pairs

end DefinitionFile

end MockSchema
