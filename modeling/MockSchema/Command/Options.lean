import MockSchema.Binary64.Decimal
import MockSchema.Encode.Format
import MockSchema.Pattern.Settings
import MockSchema.Text.Integer

/-!
# Command line options

Arguments are read from left to right. An option is given at most once; what it leaves open may come from the
environment. All mistakes are alike to the caller.
-/

namespace MockSchema.Command

inductive OptionName where
  | format | count | seed | generators | maxRepeat | optionalProbability
  deriving DecidableEq, Repr

/-- Arguments as given: the schema, whether to write on several lines, and the values of options. -/
structure Arguments where
  schema : Option String
  pretty : Bool
  values : List (OptionName × String)
  deriving DecidableEq, Repr, Inhabited

/-- Options with their meaning. -/
structure Options where
  schema : Option String
  format : Format
  count : Nat
  pretty : Bool
  seed : Option UInt64
  generators : Option String
  maxRepeat : UInt32
  optionalProbability : Binary64
  deriving DecidableEq, Repr

/-- What the arguments ask for. -/
inductive Request where
  | run (options : Options)
  | version
  | help
  deriving DecidableEq, Repr

/-- Why reading the arguments stops early. -/
inductive Stop where
  | mistake | version | help
  deriving DecidableEq, Repr

/-- What an argument that begins with hyphens names. -/
inductive Named where
  | value (name : OptionName)
  | pretty | version | help
  deriving DecidableEq, Repr

def longName? (name : String) : Option Named :=
  match name with
  | "format" => some (.value .format)
  | "count" => some (.value .count)
  | "seed" => some (.value .seed)
  | "generators" => some (.value .generators)
  | "max-repeat" => some (.value .maxRepeat)
  | "optional-probability" => some (.value .optionalProbability)
  | "pretty" => some .pretty
  | "version" => some .version
  | "help" => some .help
  | _ => none

def shortName? (c : Char) : Option Named :=
  match c with
  | 'f' => some (.value .format)
  | 'n' => some (.value .count)
  | 'V' => some .version
  | 'h' => some .help
  | _ => none

/-- The variable that stands in for an option. -/
def OptionName.variable? : OptionName → Option String
  | .seed => some "SHAM_SEED"
  | .generators => some "SHAM_GENERATORS"
  | .maxRepeat => some "SHAM_MAX_REPEAT"
  | .optionalProbability => some "SHAM_OPTIONAL_PROBABILITY"
  | _ => none

/-- A number of 32 bits, which may be written as a negative zero. -/
def readWord32? (text : String) : Option UInt32 :=
  match Text.readInt64? text.toList with
  | some i => if 0 ≤ i.toInt ∧ i.toInt < UInt32.size then some (UInt32.ofNat i.toInt.toNat) else none
  | none => none

/-- Whether a text is a value of the option. -/
def OptionName.accepts (name : OptionName) (text : String) : Bool :=
  match name with
  | .format => (Format.ofName? text).isSome
  | .count => (Text.readWord? 64 text.toList).isSome
  | .seed => (Text.readWord? 64 text.toList).isSome
  | .generators => !text.isEmpty
  | .maxRepeat => (readWord32? text).isSome
  | .optionalProbability => (Binary64.read? text.toList).isSome

namespace Arguments

def empty : Arguments := ⟨none, false, []⟩

def setValue (a : Arguments) (name : OptionName) (text : String) : Except Stop Arguments :=
  if (a.values.lookup name).isSome || !name.accepts text then .error .mistake
  else .ok { a with values := (name, text) :: a.values }

def setSchema (a : Arguments) (text : String) : Except Stop Arguments :=
  if a.schema.isSome then .error .mistake else .ok { a with schema := some text }

def setPretty (a : Arguments) : Except Stop Arguments :=
  if a.pretty then .error .mistake else .ok { a with pretty := true }

/-- Reads one-letter options in one argument. What follows an option with a value is its value, with or
without an equals sign. Gives back an option whose value is still to come. -/
def readShort (a : Arguments) : List Char → Except Stop (Arguments × Option OptionName)
  | [] => .ok (a, none)
  | c :: r =>
    match shortName? c with
    | some (.value name) =>
      match r with
      | [] => .ok (a, some name)
      | '=' :: value => return (← a.setValue name (String.ofList value), none)
      | value => return (← a.setValue name (String.ofList value), none)
    | some .pretty => do readShort (← a.setPretty) r
    | some .version => .error .version
    | some .help => .error .help
    | none => .error .mistake

/-- Splits a long option at its first equals sign. -/
def splitValue (cs : List Char) : List Char × Option (List Char) :=
  match cs.dropWhile (· ≠ '=') with
  | [] => (cs, none)
  | _ :: value => (cs.takeWhile (· ≠ '='), some value)

def readLong (a : Arguments) (cs : List Char) : Except Stop (Arguments × Option OptionName) :=
  let (name, value) := splitValue cs
  match longName? (String.ofList name), value with
  | some (.value name), some value => return (← a.setValue name (String.ofList value), none)
  | some (.value name), none => .ok (a, some name)
  | some .pretty, none => return (← a.setPretty, none)
  | some .version, none => .error .version
  | some .help, none => .error .help
  | _, _ => .error .mistake

/-- Reads arguments from left to right. `waiting` is an option whose value comes next; a value on its own
does not begin with a hyphen. Behind two hyphens there are no options. -/
def read (waiting : Option OptionName) (a : Arguments) : List String → Except Stop Arguments
  | [] => if waiting.isSome then .error .mistake else .ok a
  | arg :: rest =>
    match arg.toList, waiting with
    | ['-', '-'], none => rest.foldlM setSchema a
    | '-' :: '-' :: cs, none => do
      let (a, waiting) ← a.readLong cs
      read waiting a rest
    | '-' :: c :: cs, none => do
      let (a, waiting) ← a.readShort (c :: cs)
      read waiting a rest
    | '-' :: _ :: _, some _ => .error .mistake
    | _, some name => do read none (← a.setValue name arg) rest
    | _, none => do read none (← a.setSchema arg) rest

/-- The text of an option from the arguments or else from the environment; a text from there must be a value
too. -/
def lookup (a : Arguments) (env : String → Option String) (name : OptionName) :
    Except Stop (Option String) :=
  match a.values.lookup name with
  | some text => .ok (some text)
  | none =>
    match name.variable?.bind env with
    | some text => if name.accepts text then .ok (some text) else .error .mistake
    | none => .ok none

/-- Options with the environment filled in: one document in JSON unless something else is asked for. -/
def options (a : Arguments) (env : String → Option String) : Except Stop Options := do
  let get (name : OptionName) := a.lookup env name
  let number (text : Option String) : Option Nat := text.bind fun t => Text.readWord? 64 t.toList
  let initial := Pattern.Settings.initial
  return {
    schema := a.schema
    format := ((← get .format).bind Format.ofName?).getD .json
    count := (number (← get .count)).getD 1
    pretty := a.pretty
    seed := (number (← get .seed)).map UInt64.ofNat
    generators := ← get .generators
    maxRepeat := ((← get .maxRepeat).bind readWord32?).getD initial.maxRepeat
    optionalProbability :=
      ((← get .optionalProbability).bind fun t => Binary64.read? t.toList).getD
        initial.optionalProbability }

end Arguments

/-- What the arguments ask for, or that they make no sense. -/
def Request.ofArguments? (args : List String) (env : String → Option String) : Option Request :=
  match (do (← Arguments.read none .empty args).options env : Except Stop Options) with
  | .ok options => some (.run options)
  | .error .version => some .version
  | .error .help => some .help
  | .error .mistake => none

end MockSchema.Command
