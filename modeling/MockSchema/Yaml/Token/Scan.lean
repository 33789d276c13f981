import MockSchema.Yaml.Token.Scalar

/-!
# Cutting YAML texts into tokens
-/

namespace MockSchema.Yaml.Scanner

/-- Steps over white space and comments. A tab may not stand where a key may begin outside of flow
collections; behind a line break there a key may begin. -/
def skipToToken : Nat → Scanner Unit
  | 0 => pure ()
  | fuel + 1 => do
    let s ← get
    if s.place.index = 0 ∧ s.rest.head? = some byteOrderMark then skip
    let _ ← takeWhile fun c => c = ' ' || (c = '\t' && (s.flowDepth != 0 || !s.keyAllowed))
    if ← isNext '#' then
      let _ ← takeWhile fun c => !isBreak c
    if (← peek).any isBreak then
      let _ ← takeBreak
      if s.flowDepth = 0 then allowKey true
      skipToToken fuel

/-- Closes all blocks; no key may begin here. -/
def leaveBlocks : Scanner Unit := do
  closeBlocks (-1)
  dropCandidate
  allowKey false

/-- A number of a version, which has at most nine digits. -/
def takeVersionNumber : Scanner Nat := do
  let digits ← takeWhile Char.isDigit
  if 9 < digits.length then failure
  Text.readNat? 10 digits

/-- A tag handle: an exclamation mark, alone or with a name and another one behind it. Where no directive is
read the name may lack the second mark. -/
def takeTagHandle (directive : Bool) : Scanner (List Char) := do
  expect '!'
  let name ← takeWhile isNameChar
  if ← isNext '!' then
    skip
    return '!' :: name ++ ['!']
  else if directive ∧ !name.isEmpty then failure
  else return '!' :: name

/-- The byte for two hexadecimal digits behind a percent sign. -/
def takeEscapedByte : Scanner UInt8 := do
  expect '%'
  let code := (← get).rest.take 2
  if code.length < 2 then failure
  skipTimes 2
  return (← Text.readNat? 16 code).toUInt8

/-- Bytes of the encoded character that a first byte announces. -/
def encodedWidth? (first : UInt8) : Option Nat :=
  if first &&& 0x80 = 0 then some 1
  else if first &&& 0xE0 = 0xC0 then some 2
  else if first &&& 0xF0 = 0xE0 then some 3
  else if first &&& 0xF8 = 0xF0 then some 4
  else none

def takeContinuation : Nat → Scanner (List UInt8)
  | 0 => return []
  | n + 1 => do
    let b ← takeEscapedByte
    if b &&& 0xC0 ≠ 0x80 then failure
    return b :: (← takeContinuation n)

/-- A character written as escaped bytes. Bytes that make up none become the replacement character. -/
def takeEscapedChar : Scanner Char := do
  let first ← takeEscapedByte
  let width ← encodedWidth? first
  let bytes := first :: (← takeContinuation (width - 1))
  let text := (String.fromUTF8? ⟨bytes.toArray⟩).getD ""
  return text.toList.headD '\uFFFD'

def isUriChar (verbatim : Bool) (c : Char) : Bool :=
  isNameChar c ||
    c ∈ [';', '/', '?', ':', '@', '&', '=', '+', '$', '.', '%', '!', '~', '*', '\'', '(', ')'] ||
    (verbatim && c ∈ [',', '[', ']'])

/-- Characters of a tag, percent escapes decoded. -/
def takeUri (verbatim : Bool) : Nat → Scanner (List Char)
  | 0 => return []
  | fuel + 1 => do
    match ← peek with
    | some c =>
      if c = '%' then
        let d ← takeEscapedChar
        return d :: (← takeUri verbatim fuel)
      else if isUriChar verbatim c then
        skip
        return c :: (← takeUri verbatim fuel)
      else return []
    | none => return []

def takeSomeUri (verbatim : Bool) : Scanner (List Char) := do
  let uri ← takeUri verbatim (← remaining)
  if uri.isEmpty then failure else return uri

/-- Reads a directive: a version or a tag handle with what it stands for. -/
def scanDirective : Scanner Unit := do
  leaveBlocks
  skip
  let name ← takeWhile isNameChar
  if !(← isGapAt 0) then failure
  let token ←
    if name = "YAML".toList then do
      let _ ← takeWhile isBlank
      let major ← takeVersionNumber
      expect '.'
      let minor ← takeVersionNumber
      pure (Token.versionDirective major minor)
    else if name = "TAG".toList then do
      let _ ← takeWhile isBlank
      let handle ← takeTagHandle true
      if !(← peek).any isBlank then failure
      let _ ← takeWhile isBlank
      let uri ← takeSomeUri true
      if !(← isGapAt 0) then failure
      pure (Token.tagDirective handle uri)
    else failure
  finishLine
  push token

/-- Reads an anchor or an alias, from its mark on. -/
def takeAnchorName : Scanner (List Char) := do
  skip
  let name ← takeWhile isNameChar
  let ended := (← isGapAt 0) || (← peek).any (· ∈ ['?', ':', ',', ']', '}', '%', '@', '\x60'])
  if name.isEmpty || !ended then failure
  return name

/-- Reads a tag: verbatim between angle brackets, with a handle, or local. -/
def takeTag : Scanner Token := do
  if (← peekAt 1) = some '<' then
    skipTimes 2
    let uri ← takeSomeUri true
    expect '>'
    return .tag [] uri
  else
    let handle ← takeTagHandle false
    if 1 < handle.length ∧ handle.getLast? = some '!' then
      return .tag handle (← takeSomeUri false)
    else
      let suffix := handle.drop 1 ++ (← takeUri false (← remaining))
      return if suffix.isEmpty then .tag [] ['!'] else .tag ['!'] suffix

def scanTag : Scanner Unit := do
  let t ← takeTag
  let inFlow := (← get).flowDepth ≠ 0
  if !(inFlow ∧ (← isNext ',')) ∧ !(← isGapAt 0) then failure
  push t

def scanOpening (t : Token) : Scanner Unit := do
  noteCandidate
  modify fun s => { s with
    flowDepth := s.flowDepth + 1, candidates := none :: s.candidates, keyAllowed := true }
  skip
  push t

def scanClosing (t : Token) : Scanner Unit := do
  dropCandidate
  modify fun s => if s.flowDepth = 0 then s else { s with
    flowDepth := s.flowDepth - 1, candidates := s.candidates.drop 1 }
  allowKey false
  skip
  push t

/-- Reads an indicator of an entry or a key, which may open a block collection. -/
def scanIndicator (start t : Token) (keyBehind : Bool) : Scanner Unit := do
  let s ← get
  if s.flowDepth = 0 then
    if !s.keyAllowed then failure
    openBlock s.place.column none start
  dropCandidate
  allowKey keyBehind
  skip
  push t

/-- A colon. If a key may have begun on the line, it has, and its tokens are put in where it began. -/
def scanValue : Scanner Unit := do
  let s ← get
  match s.candidates.head?.join with
  | some k =>
    insertAt k.tokensBefore .key
    openBlock k.place.column (some k.tokensBefore) .blockMappingStart
    modify fun s => { s with candidates := none :: s.candidates.drop 1, keyAllowed := false }
  | none =>
    if s.flowDepth = 0 then
      if !s.keyAllowed then failure
      openBlock s.place.column none .blockMappingStart
    allowKey (s.flowDepth = 0)
  skip
  push .value

/-- Reads something that may be a key. -/
def scanPossibleKey (scan : Scanner Unit) : Scanner Unit := do
  noteCandidate
  allowKey false
  scan

/-- Indicators that no plain scalar begins with. -/
def isIndicator (c : Char) : Bool :=
  c ∈ ['-', '?', ':', ',', '[', ']', '{', '}', '#', '&', '*', '!', '|', '>', '\'', '"', '%', '@', '\x60']

/-- Reads the token that begins with the given character. -/
def scanToken (c : Char) : Scanner Unit := do
  let s ← get
  let inFlow := s.flowDepth ≠ 0
  let gapBehind ← isGapAt 1
  if s.place.column = 0 ∧ c = '%' then scanDirective
  else if ← isDocumentMark then
    leaveBlocks
    skipTimes 3
    push (if c = '-' then .documentStart else .documentEnd)
  else if c = '[' then scanOpening .flowSequenceStart
  else if c = '{' then scanOpening .flowMappingStart
  else if c = ']' then scanClosing .flowSequenceEnd
  else if c = '}' then scanClosing .flowMappingEnd
  else if c = ',' then
    dropCandidate
    allowKey true
    skip
    push .flowEntry
  else if c = '-' ∧ gapBehind then
    scanIndicator .blockSequenceStart .blockEntry true
  else if c = '?' ∧ (inFlow ∨ gapBehind) then
    scanIndicator .blockMappingStart .key (!inFlow)
  else if c = ':' ∧ (inFlow ∨ gapBehind) then scanValue
  else if c = '*' then scanPossibleKey do push (.alias (← takeAnchorName))
  else if c = '&' then scanPossibleKey do push (.anchor (← takeAnchorName))
  else if c = '!' then scanPossibleKey scanTag
  else if (c = '|' ∨ c = '>') ∧ !inFlow then
    dropCandidate
    allowKey true
    scanBlock (c = '|')
  else if c = '\'' ∨ c = '"' then scanPossibleKey (scanQuoted (c = '\''))
  else if !isIndicator c ∨ (c = '-' ∧ !(← peekAt 1).any isBlank) ∨
      (!inFlow ∧ (c = '?' ∨ c = ':') ∧ !gapBehind) then
    scanPossibleKey scanPlain
  else failure

/-- Reads tokens to the end of the text. Every token has at least one character. -/
def scanAll : Nat → Scanner Unit
  | 0 => failure
  | fuel + 1 => do
    skipToToken ((← remaining) + 1)
    dropStale
    closeBlocks (← get).place.column
    match ← peek with
    | some c =>
      scanToken c
      scanAll fuel
    | none =>
      leaveBlocks
      push .streamEnd

end MockSchema.Yaml.Scanner

namespace MockSchema.Yaml

/-- The tokens of a text, of which a byte order mark at the start is no part. -/
def Token.ofText? (text : List Char) : Option (List Token) := do
  let text := match text with
    | c :: r => if c = byteOrderMark then r else c :: r
    | [] => []
  if text.all isAllowed then
    let ((), s) ← (Scanner.scanAll (text.length + 1)).run (Scanner.start text)
    return s.tokens.reverse
  else none

end MockSchema.Yaml
