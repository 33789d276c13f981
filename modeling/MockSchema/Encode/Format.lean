import MockSchema.Encode.Json
import MockSchema.Encode.Xml
import MockSchema.Text.Quoted

/-!
# Output formats
-/

namespace MockSchema

inductive Format where
  | json | xml
  deriving DecidableEq, Repr, Inhabited

inductive EncodeError where
  | notAnXmlName (name : String)
  | unknownFormat (name : String)
  deriving DecidableEq, Repr

def EncodeError.message : EncodeError → String
  | .notAnXmlName name => "Invalid XML element name: " ++ Text.quoted name
  | .unknownFormat name => s!"Unknown output format: {name} (expected json or xml)"

namespace Format

def name : Format → String
  | .json => "json"
  | .xml => "xml"

/-- The format with a name in lower case. -/
def ofName? (name : String) : Option Format :=
  match name with
  | "json" => some .json
  | "xml" => some .xml
  | _ => none

/-- Reads a name in either case. -/
def parse (text : String) : Except EncodeError Format :=
  match ofName? (text.map Char.toLower) with
  | some f => .ok f
  | none => .error (.unknownFormat text)

/-- The text of a value in a format. -/
def write (format : Format) (pretty : Bool) (v : Value) : Except EncodeError String :=
  match format with
  | .json => .ok (Json.write pretty v)
  | .xml =>
    match Xml.write pretty v with
    | .ok s => .ok s
    | .error e => .error (.notAnXmlName e.name)

end Format

end MockSchema
