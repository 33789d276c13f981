import MockSchema.Unicode.Property

/-!
# Quoted text

The form in which messages and nested values show a text: between quotes, with escapes for the quote,
the backslash, line controls and every character that would not be seen.
-/

namespace MockSchema.Text

/-- A code point in lower-case hexadecimal between braces. -/
def escapeCode (c : Char) : List Char := ['\\', 'u', '{'] ++ Nat.toDigits 16 c.toNat ++ ['}']

/-- The written form of a character inside the given quotes. Characters that extend the one before them
are escaped too, for they would change how the quote looks. -/
def escape (quote c : Char) : List Char :=
  if c = quote ∨ c = '\\' then ['\\', c]
  else if c = '\t' then ['\\', 't']
  else if c = '\r' then ['\\', 'r']
  else if c = '\n' then ['\\', 'n']
  else if c.toNat = 0 then ['\\', '0']
  else if Unicode.isGraphemeExtend c then escapeCode c
  else if Unicode.isPrintable c then [c]
  else escapeCode c

def quote (cs : List Char) : List Char := '"' :: cs.flatMap (escape '"') ++ ['"']

/-- A single character between single quotes. -/
def quoteChar (c : Char) : List Char := '\'' :: escape '\'' c ++ ['\'']

/-- The form in which messages show a path: both kinds of quotes are escaped. -/
def quotePath (cs : List Char) : List Char :=
  '"' :: cs.flatMap (fun c => if c = '\'' then ['\\', c] else escape '"' c) ++ ['"']

def quotedPath (s : String) : String := String.ofList (quotePath s.toList)

def quoted (s : String) : String := String.ofList (quote s.toList)

def quotedChar (c : Char) : String := String.ofList (quoteChar c)

end MockSchema.Text
