import MockSchema.Pattern.Error
import MockSchema.Schema.Basic
import MockSchema.Token.Basic
import MockSchema.Value.Display

/-!
# Errors in schemas
-/

namespace MockSchema

/-- What could have stood where a token was refused. -/
inductive Expectation where
  | kind (k : TokenKind)
  | value
  | commaOrBrace
  | commaOrParen
  deriving DecidableEq, Repr

def Expectation.text : Expectation → String
  | .kind k => k.name
  | .value => "a value"
  | .commaOrBrace => TokenKind.comma.name ++ " or " ++ TokenKind.rbrace.name
  | .commaOrParen => TokenKind.comma.name ++ " or " ++ TokenKind.rparen.name

/-- Why a text is not a schema. -/
inductive SchemaError where
  | lexical (e : LexError)
  | empty
  | unexpected (expected : Expectation) (found : Token)
  | unknownName (name : String) (offset : Nat)
  | reversedRange (min max : Int64)
  | negativeLength (length : Range)
  | unclosedPlace (raw : String)
  | unreadableInteger (literal : String) (offset : Nat)
  | unreadableFloat (literal : String) (offset : Nat)
  | unreadablePattern (literal pattern : String) (e : Pattern.Error)
  deriving DecidableEq, Repr

def intText (i : Int64) : String := String.ofList (Value.intChars i.toInt)

def SchemaError.message : SchemaError → String
  | .lexical e => e.message
  | .empty => "empty input"
  | .unexpected expected found =>
    s!"expected {expected.text}, got {found.describe} at byte {found.offset}"
  | .unknownName name offset =>
    "unknown terminal generator " ++ Text.quoted name ++ s!" at byte {offset}"
  | .reversedRange min max =>
    s!"range maximum {intText max} cannot be less than the minimum {intText min}"
  | .negativeLength r =>
    s!"array length range ({intText r.min},{intText r.max}) cannot be negative"
  | .unclosedPlace raw =>
    "unterminated placeholder in formatted string " ++ Text.quoted raw
  | .unreadableInteger literal offset => s!"integer {literal} at byte {offset} is out of range"
  | .unreadableFloat literal offset => s!"invalid float {literal} at byte {offset}"
  | .unreadablePattern literal pattern e =>
    "invalid regex /" ++ literal ++ "/: " ++ e.message pattern

end MockSchema
