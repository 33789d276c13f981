import MockSchema.Generator.Basic
import MockSchema.Schema.Error
import MockSchema.Token.Basic
import MockSchema.Value.OfYaml

/-!
# Definitions of generators

A definition says what a generator is to produce. It becomes a generator unless there is something that could
not be produced.
-/

namespace MockSchema

inductive Definition where
  | uuid
  | intRange (min max : Int64)
  | floatRange (min max : Binary64)
  | timestampRange (start stop : String)
  | timestampNow
  | weightedBool (weight : Binary64)
  | oneOf (values : List Yaml.Value)
  | static (value : Yaml.Value)
  | null
  | regex (pattern : String) (maxRepeat : Option UInt32) (optionalProbability : Option Binary64)
  deriving Repr, Inhabited

/-- Why a definition is refused. -/
inductive DefinitionFault where
  | name
  | intOrder (min max : Int64)
  | floatOrder (min max : Binary64)
  | infiniteBounds
  | tooWide (min max : Binary64)
  | startText (text : String)
  | stopText (text : String)
  | timestampOrder (start stop : String)
  | weight (weight : Binary64)
  | emptyPool
  | key (key : Yaml.Value)
  | settings (e : Pattern.SettingsError)
  | pattern (pattern : String) (e : Pattern.Error)
  deriving Repr

def floatText (x : Binary64) : String := String.ofList x.plain

def DefinitionFault.message : DefinitionFault → String
  | .name => "name is not a usable identifier"
  | .intOrder min max => s!"min {intText min} is greater than max {intText max}"
  | .floatOrder min max => s!"min {floatText min} is greater than max {floatText max}"
  | .infiniteBounds => "float bounds must be finite"
  | .tooWide min max => s!"range from {floatText min} to {floatText max} is too wide to sample"
  | .startText text => "cannot parse start timestamp " ++ Text.quoted text
  | .stopText text => "cannot parse end timestamp " ++ Text.quoted text
  | .timestampOrder start stop => s!"start {start} is after end {stop}"
  | .weight w => "true_weight must be within [0, 1], got " ++ floatText w
  | .emptyPool => "one_of requires at least one value"
  | .key k => Value.unsupportedKeyText k
  | .settings e => e.message
  | .pattern text e => "invalid regex /" ++ text ++ "/: " ++ e.message text

/-- A refused definition by name. -/
structure DefinitionError where
  name : String
  fault : DefinitionFault
  deriving Repr

def DefinitionError.message (e : DefinitionError) : String :=
  s!"Invalid generator '{e.name}': " ++ e.fault.message

namespace Definition

def intRangeGenerator (min max : Int64) : Except DefinitionFault Generator :=
  match Range.of? min max with
  | some r => .ok (.integer r)
  | none => .error (.intOrder min max)

/-- The difference of the bounds must be finite too, for draws are scaled by it. -/
def floatRangeGenerator (min max : Binary64) : Except DefinitionFault Generator :=
  if !min.isFinite || !max.isFinite then .error .infiniteBounds
  else if max.lt min then .error (.floatOrder min max)
  else if !(max.sub min).isFinite then .error (.tooWide min max)
  else .ok (.float min max)

def timestampRangeGenerator (start stop : String) : Except DefinitionFault Generator :=
  match Instant.parse? start with
  | none => .error (.startText start)
  | some a =>
    match Instant.parse? stop with
    | none => .error (.stopText stop)
    | some b => if a.le b then .ok (.timestampBetween a b) else .error (.timestampOrder start stop)

def poolGenerator (values : List Yaml.Value) : Except DefinitionFault Generator :=
  if values.isEmpty then .error .emptyPool
  else
    match Value.itemsOfYaml values with
    | .ok pool => .ok (.oneOf pool)
    | .error key => .error (.key key)

def staticGenerator (value : Yaml.Value) : Except DefinitionFault Generator :=
  match Value.ofYaml value with
  | .ok v => .ok (.constant v)
  | .error key => .error (.key key)

/-- Settings that are left out are the initial ones. -/
def regexGenerator (pattern : String) (maxRepeat : Option UInt32) (probability : Option Binary64) :
    Except DefinitionFault Generator :=
  let initial := Pattern.Settings.initial
  match Pattern.Settings.of (maxRepeat.getD initial.maxRepeat)
      (probability.getD initial.optionalProbability) with
  | .error e => .error (.settings e)
  | .ok settings =>
    match Pattern.ofText pattern settings with
    | .error e => .error (.pattern pattern e)
    | .ok p => .ok (.pattern p)

/-- The generator for a definition. -/
def toGenerator : Definition → Except DefinitionFault Generator
  | .uuid => .ok .uuid
  | .intRange min max => intRangeGenerator min max
  | .floatRange min max => floatRangeGenerator min max
  | .timestampRange start stop => timestampRangeGenerator start stop
  | .timestampNow => .ok .timestampNow
  | .weightedBool w => if w.isProbability then .ok (.boolean w) else .error (.weight w)
  | .oneOf values => poolGenerator values
  | .static v => staticGenerator v
  | .null => .ok (.constant .null)
  | .regex pattern maxRepeat probability => regexGenerator pattern maxRepeat probability

/-- The generator for a definition, or the error that names it. -/
def toNamedGenerator (name : String) (d : Definition) : Except DefinitionError Generator :=
  match d.toGenerator with
  | .ok g => .ok g
  | .error fault => .error ⟨name, fault⟩

end Definition

/-- Names that can be written in a schema: a letter, then letters, digits and underscores, but no reserved
word. -/
def isUsableName (name : String) : Bool :=
  match name.toList with
  | [] => false
  | c :: r =>
    c.isAlpha && r.all (fun d => d.isAlphanum || d = '_') && (TokenKind.keyword? (c :: r)).isNone

/-- Definitions by name, in ascending order of names. -/
structure DefinitionFile where
  definitions : List (String × Definition)
  deriving Repr, Inhabited

namespace DefinitionFile

/-- Of several definitions of one name the last one counts. -/
def ofPairs (pairs : List (String × Definition)) : DefinitionFile :=
  ⟨(Entries.ofPairs pairs).mergeSort fun a b => decide (a.1 ≤ b.1)⟩

/-- A generator for one entry; the name is looked at first. -/
def entryGenerator (name : String) (d : Definition) : Except DefinitionError Generator :=
  if isUsableName name then d.toNamedGenerator name else .error ⟨name, .name⟩

/-- Generators for entries, or the error of the first one that is refused. -/
def generatorsOf : List (String × Definition) → Except DefinitionError (List (String × Generator))
  | [] => .ok []
  | (name, d) :: rest => do
    let g ← entryGenerator name d
    let gs ← generatorsOf rest
    return (name, g) :: gs

def toRegistry (file : DefinitionFile) : Except DefinitionError (Registry Generator) := do
  return Registry.ofPairs (← generatorsOf file.definitions)

/-- Registers all definitions and gives their number, or registers none. -/
def registerInto (file : DefinitionFile) (r : Registry Generator) :
    Except DefinitionError (Registry Generator × Nat) := do
  let custom ← file.toRegistry
  return (r.merge custom, custom.size)

end DefinitionFile

end MockSchema
