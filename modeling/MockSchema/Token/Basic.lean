import MockSchema.Text.Quoted

/-!
# Tokens of a schema text

Kinds of token, their names in messages, and the errors of scanning.
-/

namespace MockSchema

inductive TokenKind where
  | eof | whitespace
  | lbrace | rbrace | lbracket | rbracket | lparen | rparen | colon | comma
  | string | template | integer | float | ident | regex
  | nullWord | trueWord | falseWord
  deriving DecidableEq, Repr, Inhabited

namespace TokenKind

/-- The reserved words. -/
def keyword? (word : List Char) : Option TokenKind :=
  match word with
  | ['n', 'u', 'l', 'l'] => some .nullWord
  | ['t', 'r', 'u', 'e'] => some .trueWord
  | ['f', 'a', 'l', 's', 'e'] => some .falseWord
  | _ => none

/-- The single characters that are tokens of their own. -/
def punctuation? (c : Char) : Option TokenKind :=
  if c = '{' then some .lbrace
  else if c = '}' then some .rbrace
  else if c = '[' then some .lbracket
  else if c = ']' then some .rbracket
  else if c = '(' then some .lparen
  else if c = ')' then some .rparen
  else if c = ':' then some .colon
  else if c = ',' then some .comma
  else none

/-- How messages name a kind. -/
def name : TokenKind → String
  | .eof => "<EOF>"
  | .whitespace => "<WS>"
  | .lbrace => "\"\x7b\""
  | .rbrace => "\"\x7d\""
  | .lbracket => "\"[\""
  | .rbracket => "\"]\""
  | .lparen => "\"(\""
  | .rparen => "\")\""
  | .colon => "\":\""
  | .comma => "\",\""
  | .string => "<STRING>"
  | .template => "<F STRING>"
  | .integer => "<INTEGER>"
  | .float => "<FLOAT>"
  | .ident => "<IDENT>"
  | .regex => "<REGEX>"
  | .nullWord => "null"
  | .trueWord => "true"
  | .falseWord => "false"

/-- Whether two tokens of the kind may differ in their text. -/
def hasContent : TokenKind → Bool
  | .string | .template | .integer | .float | .ident | .regex => true
  | _ => false

end TokenKind

/-- A token: its kind, its text without delimiters, and the byte offset where it starts. -/
structure Token where
  kind : TokenKind
  literal : String
  offset : Nat
  deriving DecidableEq, Repr, Inhabited

/-- How messages show a token: the kind, with the text where it matters. -/
def Token.describe (t : Token) : String :=
  if t.kind.hasContent then t.kind.name ++ "(" ++ Text.quoted t.literal ++ ")" else t.kind.name

/-- What is missing or wrong in a number. -/
inductive NumberFault where
  | leadingZero | digit | fractionDigit | exponentDigit
  deriving DecidableEq, Repr

def NumberFault.message : NumberFault → String
  | .leadingZero => "leading zero"
  | .digit => "expected a digit"
  | .fractionDigit => "expected a digit after '.'"
  | .exponentDigit => "expected a digit in the exponent"

/-- Why a text cannot be cut into tokens. Offsets count bytes. -/
inductive LexError where
  | unclosedString (offset : Nat)
  | unclosedPattern (offset : Nat)
  | malformedNumber (lexeme : String) (fault : NumberFault) (offset : Nat)
  | strayChar (c : Char) (offset : Nat)
  deriving DecidableEq, Repr

def LexError.message : LexError → String
  | .unclosedString o => s!"unterminated string starting at byte {o}"
  | .unclosedPattern o => s!"unterminated regex starting at byte {o}"
  | .malformedNumber l f o => "invalid number " ++ Text.quoted l ++ s!" at byte {o}: " ++ f.message
  | .strayChar c o => "unexpected character " ++ Text.quotedChar c ++ s!" at byte {o}"

end MockSchema
