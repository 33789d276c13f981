import MockSchema.Registry
import MockSchema.Schema.Error
import MockSchema.Text.Split
import MockSchema.Text.Width

/-!
# Templates

A template is text with names between `${` and `}`. It is cut into pieces first; then the names are
looked up from left to right.
-/

namespace MockSchema

/-- A piece of a written template. A place ends at the first closing brace; `unclosed` stands for one that
does not end. -/
inductive TemplatePiece where
  | text (s : List Char)
  | place (name : List Char) (offset : Nat)
  | unclosed
  deriving DecidableEq, Repr

namespace TemplatePiece

/-- The piece for characters collected in reverse; no piece for none. -/
def ofReversed (collected : List Char) : List TemplatePiece :=
  if collected.isEmpty then [] else [.text collected.reverse]

mutual

/-- Cuts text behind `collected`, where `offset` is the place of the next character in bytes. -/
def cutText (collected : List Char) (offset : Nat) : List Char → List TemplatePiece
  | [] => ofReversed collected
  | '$' :: '{' :: r => ofReversed collected ++ cutName offset [] (offset + 2) r
  | c :: r => cutText (c :: collected) (offset + c.utf8Size) r

/-- Cuts the rest of a place that starts at `start`. -/
def cutName (start : Nat) (collected : List Char) (offset : Nat) : List Char → List TemplatePiece
  | [] => [.unclosed]
  | c :: r =>
    if c = '}' then .place collected.reverse start :: cutText [] (offset + 1) r
    else cutName start (c :: collected) (offset + c.utf8Size) r

end

end TemplatePiece

/-- The pieces of a template, with the byte offset of its first character. -/
def templatePieces (offset : Nat) (raw : List Char) : List TemplatePiece :=
  TemplatePiece.cutText [] offset raw

namespace Registry

variable {η : Type}

/-- Looks up a name that stands at the given offset. -/
def resolve (r : Registry η) (name : String) (offset : Nat) : Except SchemaError (Terminal η) :=
  match r.get? name with
  | some handle => .ok ⟨name, handle⟩
  | none => .error (.unknownName name offset)

/-- Looks up the names of template pieces from left to right; `count` parameters come before. White space
around a name does not count. -/
def resolvePieces (r : Registry η) (raw : String) (count : Nat) :
    List TemplatePiece → Except SchemaError (List Segment × List (Terminal η))
  | [] => .ok ([], [])
  | .unclosed :: _ => .error (.unclosedPlace raw)
  | .text s :: rest => do
    let (segments, params) ← resolvePieces r raw count rest
    return (.text (String.ofList s) :: segments, params)
  | .place name offset :: rest => do
    let t ← r.resolve (String.ofList (Text.trim Unicode.isWhiteSpace name)) offset
    let (segments, params) ← resolvePieces r raw (count + 1) rest
    return (.param count :: segments, t :: params)

/-- Reads a template whose first character has the given offset. -/
def template (r : Registry η) (raw : String) (offset : Nat) : Except SchemaError (Template η) := do
  let (segments, params) ← r.resolvePieces raw 0 (templatePieces offset raw.toList)
  return ⟨raw, segments, params⟩

end Registry

end MockSchema
