import MockSchema.Binary64.Decimal
import MockSchema.Schema.Template
import MockSchema.Text.Integer
import MockSchema.Token.Scan

/-!
# Reading schemas

Tokens are taken one at a time. Between two tokens the reader knows what comes next and which objects and
lists are open; a token either fits there and leads on, or is refused, so the first token that cannot be
right is the one reported. Reading stops at the end token; a list without one is followed by one.
-/

namespace MockSchema

/-- What schemas are read against: the handles of names, and the settings of patterns. -/
structure Context (η : Type) where
  registry : Registry η
  settings : Pattern.Settings
  deriving Inhabited

/-- Where a range stands: on its own as a value, or as the length of a list. -/
inductive RangeUse where
  | value | length
  deriving DecidableEq, Repr

/-- What is open around a value: an object with the members before it, the last one first, or a list. -/
inductive OpenNode (η : Type) where
  | object (members : List (String × Node η)) (key : String)
  | array (length : Option Range)

/-- What comes next, with what has been read of it. -/
inductive Next (η : Type) where
  | start
  | value
  | keyOrBrace
  | key (members : List (String × Node η))
  | colon (members : List (String × Node η)) (key : String)
  | commaOrBrace (members : List (String × Node η))
  | elementOrBracket
  | rangeMin (use : RangeUse)
  | rangeSeparator (use : RangeUse) (min : Int64)
  | rangeMax (use : RangeUse) (min : Int64)
  | rangeClose (use : RangeUse) (range : Range)
  | lengthComma (length : Range)
  | bracket (length : Option Range) (element : Node η)
  | stop (root : Node η)

/-- The place between two tokens. -/
structure Reading (η : Type) where
  next : Next η
  opened : List (OpenNode η)

namespace Reading

variable {η : Type}

def initial : Reading η := ⟨.start, []⟩

def refuse {α : Type} (expected : Expectation) (found : Token) : Except SchemaError α :=
  .error (.unexpected expected found)

/-- Puts a complete value into what is open around it. -/
def complete (opened : List (OpenNode η)) (node : Node η) : Reading η :=
  match opened with
  | [] => ⟨.stop node, []⟩
  | .object members key :: rest => ⟨.commaOrBrace ((key, node) :: members), rest⟩
  | .array length :: rest => ⟨.bracket length node, rest⟩

def readInteger (t : Token) : Except SchemaError Int64 :=
  match Text.readInt64? t.literal.toList with
  | some i => .ok i
  | none => .error (.unreadableInteger t.literal t.offset)

def readFloat (t : Token) : Except SchemaError Binary64 :=
  match Binary64.read? t.literal.toList with
  | some x => if x.isFinite then .ok x else .error (.unreadableFloat t.literal t.offset)
  | none => .error (.unreadableFloat t.literal t.offset)

/-- The pattern in a literal: an escaped slash is a slash. -/
def unescapeSlashes : List Char → List Char
  | [] => []
  | '\\' :: '/' :: r => '/' :: unescapeSlashes r
  | c :: r => c :: unescapeSlashes r

def readPattern (settings : Pattern.Settings) (t : Token) : Except SchemaError Pattern :=
  let text := String.ofList (unescapeSlashes t.literal.toList)
  match Pattern.ofText text settings with
  | .ok p => .ok p
  | .error e => .error (.unreadablePattern t.literal text e)

/-- The value that a token is by itself; none for tokens that are no values or only begin one. -/
def leaf? (ctx : Context η) (t : Token) : Option (Except SchemaError (Node η)) :=
  match t.kind with
  | .ident => some do return .terminal (← ctx.registry.resolve t.literal t.offset)
  | .integer => some do return .literal (.int (← readInteger t))
  | .float => some do return .literal (.float (← readFloat t))
  | .string => some (.ok (.literal (.string t.literal)))
  | .template => some do return .template (← ctx.registry.template t.literal (t.offset + 1))
  | .regex => some do return .pattern (← readPattern ctx.settings t)
  | .nullWord => some (.ok (.literal .null))
  | .trueWord => some (.ok (.literal (.bool true)))
  | .falseWord => some (.ok (.literal (.bool false)))
  | _ => none

/-- Takes the first token of a value. -/
def takeValue (ctx : Context η) (opened : List (OpenNode η)) (t : Token) :
    Except SchemaError (Reading η) :=
  match t.kind with
  | .lbrace => .ok ⟨.keyOrBrace, opened⟩
  | .lbracket => .ok ⟨.elementOrBracket, opened⟩
  | .lparen => .ok ⟨.rangeMin .value, opened⟩
  | _ =>
    match leaf? ctx t with
    | some node => return complete opened (← node)
    | none => refuse .value t

/-- Takes a key, which must be a string. -/
def takeKey (members : List (String × Node η)) (opened : List (OpenNode η)) (t : Token) :
    Except SchemaError (Reading η) :=
  if t.kind = .string then .ok ⟨.colon members t.literal, opened⟩ else refuse (.kind .string) t

/-- A range is complete. A length must not be negative. -/
def completeRange (use : RangeUse) (opened : List (OpenNode η)) (r : Range) :
    Except SchemaError (Reading η) :=
  match use with
  | .value => .ok (complete opened (.range r))
  | .length => if r.min < 0 then .error (.negativeLength r) else .ok ⟨.lengthComma r, opened⟩

/-- Takes a token of the given kind and goes on to what comes next. -/
def takeKind (kind : TokenKind) (t : Token) (reading : Reading η) : Except SchemaError (Reading η) :=
  if t.kind = kind then .ok reading else refuse (.kind kind) t

/-- Takes one token. -/
def step (ctx : Context η) (reading : Reading η) (t : Token) : Except SchemaError (Reading η) :=
  let opened := reading.opened
  match reading.next with
  | .start => if t.kind = .eof then .error .empty else takeValue ctx opened t
  | .value => takeValue ctx opened t
  | .keyOrBrace =>
    if t.kind = .rbrace then .ok (complete opened (.object [])) else takeKey [] opened t
  | .key members => takeKey members opened t
  | .colon members key => takeKind .colon t ⟨.value, .object members key :: opened⟩
  | .commaOrBrace members =>
    if t.kind = .comma then .ok ⟨.key members, opened⟩
    else if t.kind = .rbrace then .ok (complete opened (.object members.reverse))
    else refuse .commaOrBrace t
  | .elementOrBracket =>
    if t.kind = .rbracket then .ok (complete opened .emptyArray)
    else if t.kind = .lparen then .ok ⟨.rangeMin .length, opened⟩
    else takeValue ctx (.array none :: opened) t
  | .rangeMin use =>
    if t.kind = .integer then return ⟨.rangeSeparator use (← readInteger t), opened⟩
    else refuse (.kind .integer) t
  | .rangeSeparator use min =>
    if t.kind = .rparen then completeRange use opened (Range.fixed min)
    else if t.kind = .comma then .ok ⟨.rangeMax use min, opened⟩
    else refuse .commaOrParen t
  | .rangeMax use min =>
    if t.kind = .integer then do
      let max ← readInteger t
      match Range.of? min max with
      | some r => return ⟨.rangeClose use r, opened⟩
      | none => .error (.reversedRange min max)
    else refuse (.kind .integer) t
  | .rangeClose use r =>
    if t.kind = .rparen then completeRange use opened r else refuse (.kind .rparen) t
  | .lengthComma r => takeKind .comma t ⟨.value, .array (some r) :: opened⟩
  | .bracket length element =>
    if t.kind = .rbracket then .ok (complete opened (.array length element))
    else refuse (.kind .rbracket) t
  | .stop _ => takeKind .eof t reading

/-- Takes tokens up to the end token, which is `last` if the list has none. -/
def run (ctx : Context η) (last : Token) : Reading η → List Token → Except SchemaError (Reading η)
  | reading, [] => reading.step ctx last
  | reading, t :: rest => do
    let reading ← reading.step ctx t
    if t.kind = .eof then return reading else run ctx last reading rest

end Reading

/-- The end token behind a list of tokens. -/
def Token.endOf (tokens : List Token) : Token :=
  match tokens.getLast? with
  | some t => ⟨.eof, "", t.offset + Text.width t.literal.toList⟩
  | none => ⟨.eof, "", 0⟩

namespace Schema

variable {η : Type}

/-- The schema that tokens make up. -/
def ofTokens (ctx : Context η) (tokens : List Token) : Except SchemaError (Schema η) := do
  let reading ← Reading.run ctx (Token.endOf tokens) Reading.initial tokens
  match reading.next with
  | .stop root => return ⟨some root⟩
  | _ => return .empty

/-- The schema that a text describes. -/
def parse (ctx : Context η) (source : String) : Except SchemaError (Schema η) :=
  match Token.tokenize source with
  | .ok tokens => ofTokens ctx tokens
  | .error e => .error (.lexical e)

end Schema

end MockSchema
