import MockSchema.Unicode.Age
import MockSchema.Unicode.Boundary
import MockSchema.Unicode.CaseTable
import MockSchema.Unicode.Name
import MockSchema.Unicode.Script
import MockSchema.Unicode.ScriptExtension

/-!
# Sets of characters by property

A query names a property, a value of a property, or both, in loose form. Simple case folding closes a
set under differences of case.
-/

namespace MockSchema.Unicode

/-- What a query asks for, as written. -/
inductive Query where
  | name (text : List Char)
  | value (property value : List Char)
  deriving DecidableEq, Repr

inductive QueryError where
  | unknownProperty | valueNotFound
  deriving DecidableEq, Repr

def orValueError (found : Option CharSet) : Except QueryError CharSet :=
  match found with
  | some s => .ok s
  | none => .error .valueNotFound

/-- Long name of a category, the groups of all, assigned and ASCII characters included. -/
def categoryName? (loose : String) : Option String :=
  match loose with
  | "any" => some "Any"
  | "assigned" => some "Assigned"
  | "ascii" => some "ASCII"
  | _ => longName? categoryNames loose

def script? (name : String) : Option CharSet := (scriptTable.lookup name).map CharSet.mk

/-- Characters used with a script: its own and those listed with it, less those listed without. -/
def scriptExtension? (name : String) : Option CharSet :=
  (script? name).map fun own =>
    let (listed, others) := scriptExtensionTable.partition (·.2.contains name)
    (own.diff (ofTables (others.map Prod.fst))).union (ofTables (listed.map Prod.fst))

/-- Characters assigned by a version or one before it. -/
def assignedBy? (version : String) : Option CharSet :=
  if ageTable.any (·.1 == version) then
    let earlier := ageTable.takeWhile (·.1 != version)
    some (ofTables ((earlier ++ ageTable.filter (·.1 == version)).map Prod.snd))
  else none

/-- Resolves a bare name: a property, else a category, else a script. Three short names belong to a
category and a property alike; they mean the category. -/
def ofName (text : List Char) : Except QueryError CharSet :=
  let loose := looseName text
  let property := if loose ∈ ["cf", "sc", "lc"] then none else longName? propertyNames loose
  match property with
  | some p =>
    match binary? p with
    | some s => .ok s
    | none => .error .unknownProperty
  | none =>
    match categoryName? loose with
    | some c => orValueError (category? c)
    | none =>
      match longName? scriptNames loose with
      | some s => orValueError (script? s)
      | none => .error .unknownProperty

def ofValue (property value : List Char) : Except QueryError CharSet :=
  let loose := looseName value
  let resolve (names : List (String × List String)) (table : String → Option CharSet) :=
    orValueError ((longName? names loose).bind table)
  match longName? propertyNames (looseName property) with
  | none => .error .unknownProperty
  | some "General_Category" => orValueError ((categoryName? loose).bind category?)
  | some "Script" => resolve scriptNames script?
  | some "Script_Extensions" => resolve scriptNames scriptExtension?
  | some "Age" => resolve ageNames assignedBy?
  | some "Grapheme_Cluster_Break" => resolve graphemeBreakNames graphemeBreak?
  | some "Word_Break" => resolve wordBreakNames wordBreak?
  | some "Sentence_Break" => resolve sentenceBreakNames sentenceBreak?
  | some _ => .error .valueNotFound

def Query.resolve (q : Query) : Except QueryError CharSet := do
  let s ← match q with
    | .name t => ofName t
    | .value p v => ofValue p v
  return s.canonical

/-- Pairs of a run, both members. -/
def runPairs : Nat × Nat × Nat × Nat → List (List Nat)
  | (first, last, step, partner) =>
    (List.range ((last - first) / step + 1)).map fun i => [first + i * step, partner + i * step]

/-- Groups of characters that differ by case alone. -/
def caseGroups : List (List Nat) := casePairRuns.flatMap runPairs ++ caseOrbits

/-- Some other character differs from this one by case alone. -/
def hasCaseVariant (c : Char) : Bool := caseGroups.any fun g => g.contains c.toNat

/-- Adds every character that differs by case alone from one of the set. -/
def foldCase (s : CharSet) : CharSet :=
  let added := (caseGroups.filter fun g => g.any s.contains).flatten
  if added.isEmpty then s else CharSet.ofSpans (s.spans ++ added.map fun n => (n, n))

end MockSchema.Unicode
