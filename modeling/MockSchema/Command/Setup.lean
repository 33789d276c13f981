import MockSchema.Generator.OfYaml
import MockSchema.Schema.Parse

/-!
# Setting up a run

A run reads schemas against the built-in generators, those of a file, and the settings it was given.
-/

namespace MockSchema.Command

/-- Why a file could not be read. -/
inductive FileFault where
  | notFound | denied | notDirectory | isDirectory | nameTooLong | notText
  | other (text : String)
  deriving DecidableEq, Repr

def FileFault.message : FileFault → String
  | .notFound => "No such file or directory (os error 2)"
  | .denied => "Permission denied (os error 13)"
  | .notDirectory => "Not a directory (os error 20)"
  | .isDirectory => "Is a directory (os error 21)"
  | .nameTooLong => "File name too long (os error 36)"
  | .notText => "stream did not contain valid UTF-8"
  | .other text => text

/-- A generator file: its path, and its bytes if they could be read. -/
structure GeneratorFile where
  path : String
  content : Except FileFault ByteArray

/-- Why a run cannot start. -/
inductive SetupError where
  | unreadable (path : String) (fault : FileFault)
  | malformed (path : String)
  | refused (path : String) (e : DefinitionError)
  | settings (e : Pattern.SettingsError)

/-- From the outermost cause to the innermost one. -/
def SetupError.message : SetupError → String
  | .unreadable path fault =>
    s!"Failed to load generators from {Text.quotedPath path}: " ++
      s!"Failed to read generator file: {fault.message}: {fault.message}"
  | .malformed path =>
    s!"Failed to load generators from {Text.quotedPath path}: Failed to parse YAML"
  | .refused path e => s!"Invalid generators in {Text.quotedPath path}: {e.message}"
  | .settings e => s!"Invalid regex generation settings: {e.message}"

/-- The text in the bytes of a file. -/
def GeneratorFile.text (file : GeneratorFile) : Except FileFault String :=
  match file.content with
  | .error fault => .error fault
  | .ok bytes =>
    match String.fromUTF8? bytes with
    | some text => .ok text
    | none => .error .notText

/-- Adds the generators of a file. -/
def GeneratorFile.registerInto (file : GeneratorFile) (r : Registry Generator) :
    Except SetupError (Registry Generator) :=
  match file.text with
  | .error fault => .error (.unreadable file.path fault)
  | .ok text =>
    match DefinitionFile.ofYaml? text with
    | none => .error (.malformed file.path)
    | some definitions =>
      match definitions.registerInto r with
      | .ok (r, _) => .ok r
      | .error e => .error (.refused file.path e)

/-- What schemas are read against. The file is looked at before the settings. -/
def setup (file : Option GeneratorFile) (maxRepeat : UInt32) (probability : Binary64) :
    Except SetupError (Context Generator) := do
  let registry ← match file with
    | none => .ok Generator.builtins
    | some file => file.registerInto Generator.builtins
  match Pattern.Settings.of maxRepeat probability with
  | .ok settings => return ⟨registry, settings⟩
  | .error e => .error (.settings e)

end MockSchema.Command
