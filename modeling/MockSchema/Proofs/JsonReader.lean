import MockSchema.Binary64.Decimal
import MockSchema.Schema.Basic
import MockSchema.Text.Integer
import MockSchema.Token.Scan

/-!
# A reader of JSON texts

It takes all of RFC 8259. It cuts a text into lexemes, for which white space, every escape of a string,
surrogate pairs included, and the grammar of numbers are taken care of, and then puts the lexemes together. A
number with a fraction or an exponent is a float and any other number an integer; members keep their order. The
reader is written for the format and not for the writer: it takes texts that no writer of this library gives.
-/

namespace MockSchema.Json

/-- The structural characters. -/
inductive Mark where
  | beginArray | endArray | beginObject | endObject | colon | comma
  deriving DecidableEq, Repr

def Mark.char : Mark → Char
  | .beginArray => '['
  | .endArray => ']'
  | .beginObject => '{'
  | .endObject => '}'
  | .colon => ':'
  | .comma => ','

inductive Lexeme where
  | mark (m : Mark)
  | scalar (l : Literal)
  deriving DecidableEq, Repr

/-! ## Strings -/

/-- Four hexadecimal digits in front of a text, and what follows them. -/
def codeUnit? : List Char → Option (Nat × List Char)
  | a :: b :: c :: d :: r => (Text.readNat? 16 [a, b, c, d]).map fun n => (n, r)
  | _ => none

/-- The character with a code point; none for a surrogate. -/
def charAt? (n : Nat) : Option Char := if n.isValidChar then some (Char.ofNat n) else none

/-- The escapes of one letter. -/
def shortEscapes : List (Char × Char) :=
  [('"', '"'), ('\\', '\\'), ('/', '/'), ('b', '\x08'), ('f', '\x0c'), ('n', '\n'), ('r', '\r'),
    ('t', '\t')]

/-- The second half of a surrogate pair, which must be escaped too. -/
def lowSurrogate? : List Char → Option (Nat × List Char)
  | '\\' :: 'u' :: r => (codeUnit? r).filter fun p => 0xDC00 ≤ p.1 && p.1 < 0xE000
  | _ => none

/-- The character that begins with a code unit, and what follows it. The first half of a surrogate pair
needs the second one. -/
def fromUnit? (unit : Nat) (r : List Char) : Option (Char × List Char) :=
  if 0xD800 ≤ unit ∧ unit < 0xDC00 then
    (lowSurrogate? r).bind fun p =>
      (charAt? (0x10000 + (unit - 0xD800) * 0x400 + (p.1 - 0xDC00))).map fun c => (c, p.2)
  else (charAt? unit).map fun c => (c, r)

/-- The character for an escape behind its backslash, and what follows it. -/
def escaped? : List Char → Option (Char × List Char)
  | [] => none
  | c :: r =>
    if c = 'u' then (codeUnit? r).bind fun p => fromUnit? p.1 p.2
    else (shortEscapes.lookup c).map fun d => (d, r)

/-- One character of a string, and what follows it. Controls must be escaped. -/
def character? : List Char → Option (Char × List Char)
  | [] => none
  | c :: r =>
    if c = '\\' then escaped? r
    else if c = '"' ∨ c.toNat < 0x20 then none
    else some (c, r)

theorem codeUnit?_length {cs r : List Char} {n : Nat} (h : codeUnit? cs = some (n, r)) :
    r.length < cs.length := by
  unfold codeUnit? at h
  split at h
  · obtain ⟨m, -, same⟩ := Option.map_eq_some_iff.mp h
    cases same
    simp only [List.length_cons]
    omega
  · cases h

theorem lowSurrogate?_length {cs r : List Char} {n : Nat} (h : lowSurrogate? cs = some (n, r)) :
    r.length < cs.length := by
  unfold lowSurrogate? at h
  split at h
  · have shorter := codeUnit?_length (Option.filter_eq_some_iff.mp h).1
    simp only [List.length_cons]
    omega
  · cases h

theorem fromUnit?_length {unit : Nat} {cs r : List Char} {c : Char}
    (h : fromUnit? unit cs = some (c, r)) : r.length ≤ cs.length := by
  unfold fromUnit? at h
  split at h
  · obtain ⟨⟨low, behind⟩, read, h⟩ := Option.bind_eq_some_iff.mp h
    obtain ⟨d, -, same⟩ := Option.map_eq_some_iff.mp h
    cases same
    exact Nat.le_of_lt (lowSurrogate?_length read)
  · obtain ⟨d, -, same⟩ := Option.map_eq_some_iff.mp h
    cases same
    exact Nat.le_refl _

theorem escaped?_length {cs r : List Char} {c : Char} (h : escaped? cs = some (c, r)) :
    r.length < cs.length := by
  unfold escaped? at h
  split at h
  · cases h
  split at h
  · obtain ⟨⟨unit, behind⟩, read, h⟩ := Option.bind_eq_some_iff.mp h
    have shorter := codeUnit?_length read
    have shorter' : r.length ≤ behind.length := fromUnit?_length h
    simp only [List.length_cons]
    omega
  · obtain ⟨d, -, same⟩ := Option.map_eq_some_iff.mp h
    cases same
    simp

theorem character?_length {cs r : List Char} {c : Char} (h : character? cs = some (c, r)) :
    r.length < cs.length := by
  unfold character? at h
  split at h
  · cases h
  split at h
  · have shorter := escaped?_length h
    simp only [List.length_cons]
    omega
  split at h
  · cases h
  · cases h
    simp

/-- The characters of a string up to its closing quote, and what follows the quote. -/
def string? (cs : List Char) : Option (List Char × List Char) :=
  match cs with
  | [] => none
  | c :: r =>
    if c = '"' then some ([], r)
    else
      match _ : character? (c :: r) with
      | none => none
      | some (d, behind) => (string? behind).map fun (s, rest) => (d :: s, rest)
termination_by cs.length
decreasing_by exact character?_length ‹_›

/-! ## Numbers and words -/

/-- What follows the digits in front of a text; there must be one at least. -/
def skipDigits? (cs : List Char) : Option (List Char) :=
  if cs.takeWhile Char.isDigit = [] then none else some (cs.dropWhile Char.isDigit)

/-- What follows an integer without sign. Behind a zero the integer is over. -/
def skipWhole? : List Char → Option (List Char)
  | '0' :: r => some r
  | cs => skipDigits? cs

/-- What follows an optional fraction. -/
def skipFraction? : List Char → Option (List Char)
  | '.' :: r => skipDigits? r
  | cs => some cs

/-- What follows an optional exponent. -/
def skipExponent? : List Char → Option (List Char)
  | [] => some []
  | c :: r =>
    if c = 'e' ∨ c = 'E' then
      match r with
      | '+' :: r' => skipDigits? r'
      | '-' :: r' => skipDigits? r'
      | r' => skipDigits? r'
    else some (c :: r)

/-- A text without a minus in front. -/
def unsigned : List Char → List Char
  | '-' :: r => r
  | cs => cs

/-- A whole text as a number. -/
def number? (cs : List Char) : Option Literal :=
  (skipWhole? (unsigned cs)).bind fun behind =>
    if behind = [] then (Text.readInt64? cs).map .int
    else
      ((skipFraction? behind).bind skipExponent?).bind fun rest =>
        if rest = [] then (Binary64.read? cs).map .float else none

/-- A whole text as a scalar that is no string. -/
def plain? : List Char → Option Literal
  | ['n', 'u', 'l', 'l'] => some .null
  | ['t', 'r', 'u', 'e'] => some (.bool true)
  | ['f', 'a', 'l', 's', 'e'] => some (.bool false)
  | cs => number? cs

/-! ## Lexemes -/

def marks : List Mark := [.beginArray, .endArray, .beginObject, .endObject, .colon, .comma]

def mark? (c : Char) : Option Mark := marks.find? fun m => m.char = c

/-- The characters that no word and no number goes on with. -/
def delimiters : List Char := [' ', '\t', '\n', '\r', '"'] ++ marks.map Mark.char

def isPlainChar (c : Char) : Bool := !delimiters.contains c

/-- The lexeme in front of a text without white space there, and what follows it. -/
def lexeme? : List Char → Option (Lexeme × List Char)
  | [] => none
  | c :: r =>
    match mark? c with
    | some m => some (.mark m, r)
    | none =>
      if c = '"' then
        (string? r).map fun (s, rest) => (.scalar (.string (String.ofList s)), rest)
      else if isPlainChar c then
        (plain? ((c :: r).takeWhile isPlainChar)).map fun l =>
          (.scalar l, (c :: r).dropWhile isPlainChar)
      else none

theorem string?_length {cs s r : List Char} (h : string? cs = some (s, r)) :
    r.length < cs.length := by
  induction cs using string?.induct generalizing s with
  | case1 => simp [string?] at h
  | case2 r' => simp_all [string?]
  | case3 c r' quote none =>
    rw [string?, if_neg quote] at h
    split at h
    · cases h
    · simp_all
  | case4 c r' quote d behind read ih =>
    rw [string?, if_neg quote] at h
    split at h
    · cases h
    · next d' behind' read' =>
      cases read.symm.trans read'
      obtain ⟨⟨s', r''⟩, rest, same⟩ := Option.map_eq_some_iff.mp h
      cases same
      have := ih rest
      have := character?_length read
      omega

theorem lexeme?_length {cs r : List Char} {l : Lexeme} (h : lexeme? cs = some (l, r)) :
    r.length < cs.length := by
  unfold lexeme? at h
  split at h
  · cases h
  · next c rest =>
    split at h
    · cases h
      simp
    · split at h
      · obtain ⟨⟨s, r'⟩, read, same⟩ := Option.map_eq_some_iff.mp h
        cases same
        have := string?_length read
        simp only [List.length_cons]
        omega
      · split at h
        · next plain =>
          obtain ⟨l', -, same⟩ := Option.map_eq_some_iff.mp h
          cases same
          rw [List.dropWhile_cons_of_pos plain]
          have := (List.dropWhile_sublist isPlainChar (l := rest)).length_le
          simp only [List.length_cons]
          omega
        · cases h

/-- The lexemes of a whole text. -/
def lexemes? (cs : List Char) : Option (List Lexeme) :=
  if (cs.dropWhile Token.isSpace) = [] then some []
  else
    match _ : lexeme? (cs.dropWhile Token.isSpace) with
    | none => none
    | some (l, r) => (lexemes? r).map (l :: ·)
termination_by cs.length
decreasing_by
  have shorter := lexeme?_length ‹_›
  have := (List.dropWhile_sublist Token.isSpace (l := cs)).length_le
  omega

/-! ## Values -/

/-- What is open around a value: a list with the items before it, or an object with the members before it
and the name of the value. -/
inductive Frame where
  | array (items : List Value)
  | member (members : List (String × Value)) (name : String)

/-- What comes next, with what has been read of it. -/
inductive Next where
  | value
  | itemOrEnd
  | nameOrEnd
  | name (members : List (String × Value))
  | colon (members : List (String × Value)) (name : String)
  | afterItem (items : List Value)
  | afterMember (members : List (String × Value))
  | stop (v : Value)

/-- The place between two lexemes. -/
structure Place where
  next : Next
  opened : List Frame

/-- Puts a value into what is open around it. -/
def complete (opened : List Frame) (v : Value) : Place :=
  match opened with
  | [] => ⟨.stop v, []⟩
  | .array items :: rest => ⟨.afterItem (items ++ [v]), rest⟩
  | .member members name :: rest => ⟨.afterMember (members ++ [(name, v)]), rest⟩

/-- Takes the first lexeme of a value. -/
def takeValue (opened : List Frame) : Lexeme → Option Place
  | .scalar l => some (complete opened l.toValue)
  | .mark .beginArray => some ⟨.itemOrEnd, opened⟩
  | .mark .beginObject => some ⟨.nameOrEnd, opened⟩
  | .mark _ => none

/-- Takes one lexeme. -/
def take (place : Place) (l : Lexeme) : Option Place :=
  match place.next, l with
  | .value, l => takeValue place.opened l
  | .itemOrEnd, .mark .endArray => some (complete place.opened (.array []))
  | .itemOrEnd, l => takeValue (.array [] :: place.opened) l
  | .nameOrEnd, .mark .endObject => some (complete place.opened (.object []))
  | .nameOrEnd, .scalar (.string name) => some ⟨.colon [] name, place.opened⟩
  | .name members, .scalar (.string name) => some ⟨.colon members name, place.opened⟩
  | .colon members name, .mark .colon => some ⟨.value, .member members name :: place.opened⟩
  | .afterItem items, .mark .comma => some ⟨.value, .array items :: place.opened⟩
  | .afterItem items, .mark .endArray => some (complete place.opened (.array items))
  | .afterMember members, .mark .comma => some ⟨.name members, place.opened⟩
  | .afterMember members, .mark .endObject => some (complete place.opened (.object members))
  | _, _ => none

/-- Takes all lexemes. Nothing may be open in the end. -/
def takeAll : Place → List Lexeme → Option Value
  | ⟨.stop v, _⟩, [] => some v
  | _, [] => none
  | place, l :: rest => (take place l).bind fun next => takeAll next rest

/-- The value that a text denotes. -/
def read? (text : String) : Option Value :=
  (lexemes? text.toList).bind (takeAll ⟨.value, []⟩)

end MockSchema.Json
