import MockSchema.Pattern.Escape

/-!
# Reading character classes

A class is read with a stack of what is still open around the current items: enclosing classes, and left
sides of set operations, which group to the left.
-/

namespace MockSchema.Pattern

open Reader

/-- Items of a class read so far, the last one first. The extent runs from the first item to the last. -/
structure Items where
  extent : Extent
  items : List ClassSet

def Items.push (u : Items) (item : ClassSet) : Items :=
  let start := if u.items.isEmpty then item.extent.start else u.extent.start
  ⟨⟨start, item.extent.stop⟩, item :: u.items⟩

def Items.toSet (u : Items) : ClassSet :=
  match u.items with
  | [] => .empty u.extent
  | [item] => item
  | items => .union u.extent items.reverse

/-- The error for a class still open at the end: it names the innermost one. -/
def unclosedClass {α : Type} : Reader α := do
  let s ← get
  let innermost := s.classes.findSome? fun
    | .class _ _ x _ => some x
    | .operation .. => none
  fault .openClass (innermost.getD s.position.here)

/-- Minus signs at the start of a class stand for themselves. -/
def leadingMinuses (start : Position) (u : Items) : Nat → Reader Items
  | 0 => return u
  | fuel + 1 => do
    if (← peek) = some '-' then
      let u := u.push (.literal ⟨← hereChar, '-', false⟩)
      if !(← bumpAndSkip) then fault .openClass start.here
      leadingMinuses start u fuel
    else return u

/-- Reads the opening of a class: its bracket, a caret that negates it, and the characters that stand for
themselves only in first place. -/
def beginClass (before : Items) : Reader Items := do
  let start ← position
  if !(← bumpAndSkip) then fault .openClass (← extentFrom start)
  let negated := (← peek) = some '^'
  if negated then
    if !(← bumpAndSkip) then fault .openClass (← extentFrom start)
  let u ← leadingMinuses start ⟨← here, []⟩ (← rest).length
  let u ←
    if u.items.isEmpty ∧ (← peek) = some ']' then do
      let u := u.push (.literal ⟨← hereChar, ']', false⟩)
      if !(← bumpAndSkip) then fault .openClass (← extentFrom start)
      pure u
    else pure u
  let x ← extentFrom start
  modify fun s => { s with classes := .class before.items before.extent x negated :: s.classes }
  return u

/-- Applies the set operation that waits for its right side, if one does. -/
def closeOperation (right : ClassSet) : Reader ClassSet := do
  let s ← get
  match s.classes with
  | .operation op left :: outer =>
    set { s with classes := outer }
    return .operation ⟨left.extent.start, right.extent.stop⟩ op left right
  | _ => return right

/-- Makes the current items the left side of a set operation. -/
def openOperation (op : SetOperation) (u : Items) : Reader Items := do
  let left ← closeOperation u.toSet
  modify fun s => { s with classes := .operation op left :: s.classes }
  return ⟨← here, []⟩

/-- Reads the closing bracket: the class as a whole if it is the outermost, otherwise the items around
it with the class among them. -/
def closeClass (u : Items) : Reader (Tree ⊕ Items) := do
  let set_ ← closeOperation u.toSet
  let s ← get
  match s.classes with
  | .class before beforeExtent x negated :: outer =>
    bump
    modify fun s => { s with classes := outer }
    let whole ← extentFrom x.start
    if outer.isEmpty then return .inl (.bracketed whole negated set_)
    else return .inr (Items.push ⟨beforeExtent, before⟩ (.bracketed whole negated set_))
  | _ => unclosedClass

def asciiClass? (name : List Char) : Option AsciiClass :=
  match String.ofList name with
  | "alnum" => some .alnum
  | "alpha" => some .alpha
  | "ascii" => some .ascii
  | "blank" => some .blank
  | "cntrl" => some .cntrl
  | "digit" => some .digit
  | "graph" => some .graph
  | "lower" => some .lower
  | "print" => some .print
  | "punct" => some .punct
  | "space" => some .space
  | "upper" => some .upper
  | "word" => some .word
  | "xdigit" => some .xdigit
  | _ => none

/-- A named class between inner brackets and colons, or nothing if the text is not one. -/
def namedClass? (start : Position) (cs : List Char) : Option (ClassSet × Nat) :=
  match cs with
  | '[' :: ':' :: r =>
    let (negated, r') : Bool × List Char := match r with
      | '^' :: r' => (true, r')
      | r' => (false, r')
    let name := r'.takeWhile (· ≠ ':')
    match r'.drop name.length with
    | ':' :: ']' :: _ =>
      (asciiClass? name).map fun kind =>
        let count := 2 + (if negated then 1 else 0) + name.length + 2
        let stop := (cs.take count).foldl Position.advance start
        (.ascii ⟨start, stop⟩ kind negated, count)
    | _ => none
  | _ => none

/-- A single item of a class, before it is known whether it starts a range. -/
def readItem : Reader Primitive := do
  match ← peek with
  | some '\\' => readEscape
  | some c =>
    let x ← hereChar
    bump
    return .literal ⟨x, c, false⟩
  | none => unclosedClass

def Primitive.toItem (p : Primitive) : Reader ClassSet :=
  match p with
  | .literal l => return .literal l
  | .shorthand x k n => return .shorthand x k n
  | .property x q n => return .property x q n
  | p => fault .escapeInClass p.extent

def Primitive.toBound (p : Primitive) : Reader Literal :=
  match p with
  | .literal l => return l
  | p => fault .rangeEndNotChar p.extent

/-- Reads an item or a range. A minus before a closing bracket or another minus makes no range. -/
def readItemOrRange : Reader ClassSet := do
  let first ← readItem
  skipBlanks
  if ← atEnd then unclosedClass
  let second ← peekSecond
  if (← peek) ≠ some '-' ∨ second = some ']' ∨ second = some '-' then first.toItem
  else
    if !(← bumpAndSkip) then unclosedClass
    let last ← readItem
    let x : Extent := ⟨first.extent.start, last.extent.stop⟩
    let low ← first.toBound
    let high ← last.toBound
    if high.char < low.char then fault .reversedClassRange x
    return .range x low high

/-- The operation that two equal characters stand for inside a class. -/
def operation? (c : Char) (second : Option Char) : Option SetOperation :=
  if second ≠ some c then none
  else if c = '&' then some .intersection
  else if c = '-' then some .difference
  else if c = '~' then some .symmetricDifference
  else none

/-- Reads items until the outermost class is closed. Each turn takes at least one character. -/
def readItems (u : Items) : Nat → Reader Tree
  | 0 => unclosedClass
  | fuel + 1 => do
    skipBlanks
    let s ← get
    match s.rest with
    | [] => unclosedClass
    | c :: r =>
      if c = '[' then
        match if s.classes.isEmpty then none else namedClass? s.position s.rest with
        | some (item, count) =>
          bumpTimes count
          readItems (u.push item) fuel
        | none => readItems (← beginClass u) fuel
      else if c = ']' then
        match ← closeClass u with
        | .inl tree => return tree
        | .inr u => readItems u fuel
      else
        match operation? c r.head? with
        | some op =>
          bumpTimes 2
          readItems (← openOperation op u) fuel
        | none => readItems (u.push (← readItemOrRange)) fuel

/-- Reads a class from its opening bracket on. -/
def readClass : Reader Tree := do readItems ⟨← here, []⟩ ((← rest).length + 1)

end MockSchema.Pattern
