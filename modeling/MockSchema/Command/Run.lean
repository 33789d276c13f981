import MockSchema.Command.Options
import MockSchema.Command.Setup
import MockSchema.Random.ChaCha

/-!
# Runs

A run reads one schema and writes documents, each on lines of its own. It stops at the first document that
cannot be produced; what was written before stays written.
-/

namespace MockSchema.Command

open MockSchema.Random (ChaCha)

/-- Why a run stops. Documents are counted from one. -/
inductive RunError where
  | noSchema
  | stdin (fault : FileFault)
  | setup (e : SetupError)
  | schema (e : SchemaError)
  | generate (document : Nat) (e : Failure)
  | encode (document : Nat) (e : EncodeError)

/-- An error in a pattern is a cause of its own behind the error of the schema. -/
def schemaChain (e : SchemaError) : String :=
  match e with
  | .unreadablePattern _ pattern cause => e.message ++ ": " ++ cause.message pattern
  | _ => e.message

def RunError.message : RunError → String
  | .noSchema => "no schema provided: pass it as an argument or on stdin"
  | .stdin fault => s!"Failed to read schema from stdin: {fault.message}"
  | .setup e => e.message
  | .schema e => s!"Failed to parse schema: {schemaChain e}"
  | .generate document e => s!"Failed to generate document {document}: {e.text}"
  | .encode document e => s!"Failed to encode document {document}: {e.message}"

/-- What a program leaves behind. -/
structure Outcome where
  code : Nat
  stdout : String
  stderr : String
  deriving DecidableEq, Repr

/-- A draw from an empty interval aborts the program; everything else is an error it reports. -/
def RunError.outcome (e : RunError) (stdout : String) : Outcome :=
  let code := match e with
    | .generate _ .emptyInterval => 101
    | _ => 1
  ⟨code, stdout, s!"Error: {e.message}\n"⟩

/-- The schema from the arguments, or else from standard input, where it must not be blank. -/
def schemaText (options : Options) (stdin : ByteArray) : Except RunError String :=
  match options.schema with
  | some text => .ok text
  | none =>
    match String.fromUTF8? stdin with
    | none => .error (.stdin .notText)
    | some text => if text.toList.all Unicode.isWhiteSpace then .error .noSchema else .ok text

variable {σ : Type} [RandomSource σ]

/-- The next document, whose number is given. -/
def document (schema : Schema Generator) (format : Format) (pretty : Bool) (number : Nat)
    (world : World σ) : Except RunError String × World σ :=
  match (schema.generate Generator.draw).runFrom world with
  | (.error e, world) => (.error (.generate number e), world)
  | (.ok v, world) =>
    match format.write pretty v with
    | .ok text => (.ok text, world)
    | .error e => (.error (.encode number e), world)

/-- A number of documents in order, up to the first that cannot be produced. -/
def documents (schema : Schema Generator) (format : Format) (pretty : Bool) :
    Nat → Nat → World σ → List String × Option RunError
  | 0, _, _ => ([], none)
  | count + 1, number, world =>
    match document schema format pretty number world with
    | (.error e, _) => ([], some e)
    | (.ok text, world) =>
      let (texts, stop) := documents schema format pretty count (number + 1) world
      (text :: texts, stop)

/-- The text of documents, each with a line feed behind it. -/
def joinDocuments (texts : List String) : String := String.join (texts.map (· ++ "\n"))

/-- Writes documents of a schema. -/
def writeDocuments (schema : Schema Generator) (options : Options) (world : World σ) : Outcome :=
  match documents schema options.format options.pretty options.count 1 world with
  | (texts, none) => ⟨0, joinDocuments texts, ""⟩
  | (texts, some e) => e.outcome (joinDocuments texts)

/-- The schema of a run. The text is looked for first, then the set-up is made, then the text is read. -/
def loadSchema (options : Options) (file : Option GeneratorFile) (stdin : ByteArray) :
    Except RunError (Schema Generator) := do
  let text ← schemaText options stdin
  match setup file options.maxRepeat options.optionalProbability with
  | .error e => .error (.setup e)
  | .ok context =>
    match Schema.parse context text with
    | .error e => .error (.schema e)
    | .ok schema => .ok schema

/-- A run with the given options, generator file, standard input and time. `entropy` is the seed where none is
asked for. -/
def run (options : Options) (file : Option GeneratorFile) (stdin : ByteArray) (now : Instant)
    (entropy : UInt64) : Outcome :=
  match loadSchema options file stdin with
  | .error e => e.outcome ""
  | .ok schema =>
    writeDocuments schema options
      (⟨ChaCha.ofSeed (options.seed.getD entropy), now, []⟩ : World ChaCha)

def versionText : String := "sham 0.1.0\n"

/-- The outcome where the arguments make no sense. -/
def usageOutcome : Outcome := ⟨2, "", "error: invalid arguments\n"⟩

end MockSchema.Command
