import MockSchema.Command.Options
import MockSchema.Command.Run
import Std.Time.DateTime.Timestamp

/-!
# The program

Reads what the command works on and writes what it answers.
-/

namespace MockSchema.Command

/-- The cause behind an error of the system. -/
def FileFault.ofError (e : IO.Error) : FileFault :=
  match e with
  | .noFileOrDirectory .. => .notFound
  | .permissionDenied .. => .denied
  | .inappropriateType _ code details =>
    if code = 20 then .notDirectory else if code = 21 then .isDirectory else .other details
  | .invalidArgument _ code details => if code = 36 then .nameTooLong else .other details
  | e => .other (toString e)

/-- Reads the generator file at a path. -/
def GeneratorFile.read (path : String) : IO GeneratorFile := do
  try
    return ⟨path, .ok (← IO.FS.readBinFile path)⟩
  catch e =>
    return ⟨path, .error (.ofError e)⟩

/-- The time of the system. -/
def systemTime : IO Instant := do
  let t ← Std.Time.Timestamp.now
  return ⟨t.toSecondsSinceUnixEpoch.val, t.val.nano.val.toNat⟩

/-- A seed that nobody chose. -/
def systemEntropy : IO UInt64 := do
  let bytes ← IO.getRandomBytes 8
  return bytes.foldl (fun n b => n * 256 + b.toUInt64) 0

def helpText : String := "Usage: sham [OPTIONS] [SCHEMA]\n"

/-- Writes an outcome and gives its exit code. -/
def Outcome.write (o : Outcome) : IO UInt32 := do
  IO.print o.stdout
  IO.eprint o.stderr
  return UInt32.ofNat o.code

def runSystem (options : Options) : IO Outcome := do
  let stdin ← if options.schema.isSome then pure .empty else (← IO.getStdin).readBinToEnd
  let file ← options.generators.mapM GeneratorFile.read
  return run options file stdin (← systemTime) (← systemEntropy)

end MockSchema.Command

open MockSchema.Command in
/-- Answers the arguments of the command line. -/
def main (arguments : List String) : IO UInt32 := do
  let names := ["SHAM_SEED", "SHAM_GENERATORS", "SHAM_MAX_REPEAT", "SHAM_OPTIONAL_PROBABILITY"]
  let given ← names.filterMapM fun name => do
    return (← IO.getEnv name).map fun text => (name, text)
  match Request.ofArguments? arguments fun name => given.lookup name with
  | none => usageOutcome.write
  | some .version => Outcome.write ⟨0, versionText, ""⟩
  | some .help => Outcome.write ⟨0, helpText, ""⟩
  | some (.run options) => (← runSystem options).write
