import MockSchema.Yaml.Node.Basic
import MockSchema.Yaml.Token.Scan

/-!
# Reading documents

A text has at most one document here. Tags are resolved by the directives of the document. An anchor is
numbered by how many anchor names came before it, and an alias means the number its name had last; where a
name was used again numbers repeat, and then the node that began last has the number.
-/

namespace MockSchema.Yaml

/-- `starts` lists the numbers of anchored nodes with the order in which the nodes began, the last one first,
and `nodes` the nodes by that order. -/
structure ParseState where
  tokens : List Token
  handles : List (List Char × List Char)
  names : List (List Char × Nat)
  starts : List (Nat × Nat)
  nodes : List (Nat × Node)

abbrev NodeParser := StateT ParseState Option

namespace NodeParser

def peek : NodeParser Token := return (← get).tokens.headD .streamEnd

def skip : NodeParser Unit := modify fun s => { s with tokens := s.tokens.drop 1 }

/-- Takes the given token if it comes next. -/
def takeIf (t : Token) : NodeParser Bool := do
  if (← peek) = t then
    skip
    return true
  else return false

/-- The tag for a handle and a suffix. A verbatim tag has no handle. -/
def resolveTag (handle suffix : List Char) : NodeParser (List Char) := do
  if handle.isEmpty then return suffix
  let start ← (← get).handles.lookup handle
  return start ++ suffix

/-- Anchor and tag in front of a node, in either order, each at most once. -/
def takeProperties : NodeParser (Option (List Char) × Option (List Char)) := do
  match ← peek with
  | .anchor name =>
    skip
    match ← peek with
    | .tag handle suffix =>
      skip
      return (some name, some (← resolveTag handle suffix))
    | _ => return (some name, none)
  | .tag handle suffix =>
    skip
    match ← peek with
    | .anchor name =>
      skip
      return (some name, some (← resolveTag handle suffix))
    | _ => return (none, some (← resolveTag handle suffix))
  | _ => return (none, none)

/-- Numbers an anchor; gives the order of its node among those that began. -/
def beginAnchored (name : List Char) : NodeParser Nat := do
  let s ← get
  let number := s.names.length
  let order := s.starts.length
  set { s with
    names := (name, number) :: s.names.filter (·.1 ≠ name)
    starts := (number, order) :: s.starts }
  return order

/-- Reads a node that may be anchored. -/
def anchored (anchor : Option (List Char)) (parse : NodeParser Node) : NodeParser Node := do
  match anchor with
  | none => parse
  | some name =>
    let order ← beginAnchored name
    let node ← parse
    modify fun s => { s with nodes := (order, node) :: s.nodes }
    return node

/-- Tokens behind an indicator that leave its node out. -/
def isLeftOut (ends : List Token) : NodeParser Bool := return (← peek) ∈ ends

mutual

/-- Reads a node. Block collections start only where blocks may stand, and a sequence without indentation
only as the value of a mapping. -/
def parseNode (block indentless : Bool) : Nat → NodeParser Node
  | 0 => failure
  | fuel + 1 => do
    match ← peek with
    | .alias name =>
      skip
      return .alias (← (← get).names.lookup name)
    | _ =>
      let (anchor, tag) ← takeProperties
      let t ← peek
      anchored anchor <|
        match t with
        | .scalar style text => do
          skip
          if tag = some ['!'] then return .scalar none style text
          return .scalar tag style text
        | .flowSequenceStart => do
          skip
          return .sequence tag (← flowItems true fuel)
        | .flowMappingStart => do
          skip
          return .mapping tag (← flowEntries true fuel)
        | .blockSequenceStart => do
          if !block then failure
          skip
          return .sequence tag (← blockItems fuel)
        | .blockMappingStart => do
          if !block then failure
          skip
          return .mapping tag (← blockEntries fuel)
        | .blockEntry => do
          if indentless then return .sequence tag (← indentlessItems fuel)
          if anchor.isSome || tag.isSome then return .scalar tag .plain []
          failure
        | _ => do
          if anchor.isSome || tag.isSome then return .scalar tag .plain []
          failure

/-- A node, or nothing before one of the given tokens. -/
def parseOptional (block indentless : Bool) (ends : List Token) : Nat → NodeParser Node
  | 0 => failure
  | fuel + 1 => do
    if ← isLeftOut ends then return .blank else parseNode block indentless fuel

def blockItems : Nat → NodeParser (List Node)
  | 0 => failure
  | fuel + 1 => do
    if ← takeIf .blockEntry then
      let item ← parseOptional true false [.blockEntry, .blockEnd] fuel
      return item :: (← blockItems fuel)
    else if ← takeIf .blockEnd then return []
    else failure

def indentlessItems : Nat → NodeParser (List Node)
  | 0 => failure
  | fuel + 1 => do
    if ← takeIf .blockEntry then
      let item ← parseOptional true false [.blockEntry, .key, .value, .blockEnd] fuel
      return item :: (← indentlessItems fuel)
    else return []

def blockEntries : Nat → NodeParser (List (Node × Node))
  | 0 => failure
  | fuel + 1 => do
    if ← takeIf .key then
      let key ← parseOptional true true [.key, .value, .blockEnd] fuel
      let value ←
        if ← takeIf .value then parseOptional true true [.key, .value, .blockEnd] fuel
        else pure .blank
      return (key, value) :: (← blockEntries fuel)
    else if ← takeIf .blockEnd then return []
    else failure

/-- Items of a flow sequence. A key makes an item a mapping of one entry. Where that key is left out, the
token in its place is lost. -/
def flowItems (first : Bool) : Nat → NodeParser (List Node)
  | 0 => failure
  | fuel + 1 => do
    if ← takeIf .flowSequenceEnd then return []
    if !first then
      if !(← takeIf .flowEntry) then failure
    if ← takeIf .key then
      let key ←
        if ← isLeftOut [.value, .flowEntry, .flowSequenceEnd] then do
          skip
          pure .blank
        else parseNode false false fuel
      let value ←
        if ← takeIf .value then parseOptional false false [.flowEntry, .flowSequenceEnd] fuel
        else pure .blank
      return .mapping none [(key, value)] :: (← flowItems false fuel)
    else if ← takeIf .flowSequenceEnd then return []
    else
      let item ← parseNode false false fuel
      return item :: (← flowItems false fuel)

def flowEntries (first : Bool) : Nat → NodeParser (List (Node × Node))
  | 0 => failure
  | fuel + 1 => do
    if ← takeIf .flowMappingEnd then return []
    if !first then
      if !(← takeIf .flowEntry) then failure
    if ← takeIf .key then
      let key ← parseOptional false false [.value, .flowEntry, .flowMappingEnd] fuel
      let value ←
        if ← takeIf .value then parseOptional false false [.flowEntry, .flowMappingEnd] fuel
        else pure .blank
      return (key, value) :: (← flowEntries false fuel)
    else if ← takeIf .flowMappingEnd then return []
    else
      let key ← parseNode false false fuel
      return (key, .blank) :: (← flowEntries false fuel)

end

/-- Handles that need no directive. -/
def commonHandles : List (List Char × List Char) := [
  (['!'], ['!']), (['!', '!'], "tag:yaml.org,2002:".toList)]

/-- Directives in front of a document: at most one version, which must be known, and each handle once. -/
def takeDirectives (version : Bool) : Nat → NodeParser Unit
  | 0 => failure
  | fuel + 1 => do
    match ← peek with
    | .versionDirective major minor =>
      if version ∨ major ≠ 1 ∨ (minor ≠ 1 ∧ minor ≠ 2) then failure
      skip
      takeDirectives true fuel
    | .tagDirective handle start =>
      if ((← get).handles.lookup handle).isSome then failure
      skip
      modify fun s => { s with handles := s.handles ++ [(handle, start)] }
      takeDirectives version fuel
    | _ => modify fun s => { s with handles := s.handles ++ commonHandles }

def isDirective : Token → Bool
  | .versionDirective .. => true
  | .tagDirective .. => true
  | _ => false

/-- The root of the only document, if there is one. Directives need an explicit start behind them. -/
def parseDocument (fuel : Nat) : NodeParser (Option Node) := do
  let t ← peek
  if t = .streamEnd then return none
  let root ←
    if isDirective t ∨ t = .documentStart then do
      takeDirectives false fuel
      if !(← takeIf .documentStart) then failure
      let t ← peek
      if isDirective t ∨ t ∈ [.documentStart, .documentEnd, .streamEnd] then pure Node.blank
      else parseNode true false fuel
    else do
      takeDirectives false fuel
      parseNode true false fuel
  modify fun s => { s with tokens := s.tokens.dropWhile (· = .documentEnd) }
  if (← peek) ≠ .streamEnd then failure
  return some root

end NodeParser

/-- The document in a text; none if the text is not well-formed or has more than one. -/
def Document.ofText? (text : List Char) : Option Document := do
  let tokens ← Token.ofText? text
  let (root, s) ←
    (NodeParser.parseDocument (3 * tokens.length + 3)).run ⟨tokens, [], [], [], []⟩
  return ⟨root, s.starts.filterMap fun (number, order) =>
    (s.nodes.lookup order).map fun node => (number, node)⟩

end MockSchema.Yaml
