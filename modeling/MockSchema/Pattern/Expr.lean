import MockSchema.CharSet
import MockSchema.Pattern.Syntax

/-!
# Expressions

The normal form of a pattern: flags are resolved and classes are sets. The functions named after a
constructor keep the form normal. Sequences and choices do not nest directly, neighbouring literals are
joined, a class has at least two members or none, and choices share no beginning.
-/

namespace MockSchema.Pattern

/-- Conditions on a place between characters, flags resolved. -/
inductive Look where
  | startText | endText
  | startLine (crlf : Bool)
  | endLine (crlf : Bool)
  | word (place : WordPlace) (unicode : Bool)
  deriving DecidableEq, Repr

/-- What the members of a class are. -/
inductive Alphabet where
  | bytes | characters
  deriving DecidableEq, Repr

inductive Expr where
  | empty
  | literal (text : List Char)
  | class (alphabet : Alphabet) (set : CharSet)
  | look (kind : Look)
  | repetition (counts : Counts) (greedy : Bool) (sub : Expr)
  | capture (index : Nat) (name : Option String) (sub : Expr)
  | concat (parts : List Expr)
  | alternation (branches : List Expr)
  deriving Repr, Inhabited

/-- The counts with both bounds cut to at most one. -/
def Counts.upToOne (c : Counts) : Counts :=
  if c.max = some 0 then .exactly 0 else if c.min = 0 then .optional else .exactly 1

namespace Expr

mutual

/-- The same expression, names and numbers of groups included. -/
def same : Expr → Expr → Bool
  | .empty, .empty => true
  | .literal s, .literal t => s == t
  | .class a s, .class b t => a == b && s == t
  | .look a, .look b => a == b
  | .repetition c g a, .repetition d h b => c == d && g == h && same a b
  | .capture i n a, .capture j o b => i == j && n == o && same a b
  | .concat as, .concat bs => sameAll as bs
  | .alternation as, .alternation bs => sameAll as bs
  | _, _ => false

def sameAll : List Expr → List Expr → Bool
  | [], [] => true
  | a :: as, b :: bs => same a b && sameAll as bs
  | _, _ => false

end

mutual

/-- Only the empty text can come from the expression. -/
def isBlank : Expr → Bool
  | .empty => true
  | .literal _ => false
  | .class .. => false
  | .look _ => true
  | .repetition counts _ sub => counts.max.isSome && isBlank sub
  | .capture _ _ sub => isBlank sub
  | .concat parts => areBlank parts
  | .alternation branches => areBlank branches

def areBlank : List Expr → Bool
  | [] => true
  | e :: rest => isBlank e && areBlank rest

end

def isEmpty : Expr → Bool
  | .empty => true
  | _ => false

/-- The expression without any text, a class without members. -/
def nothing : Expr := .class .bytes .empty

/-- A class with one member is a literal. -/
def ofClass (alphabet : Alphabet) (set : CharSet) : Expr :=
  if set.isEmpty then nothing
  else
    match set.single? with
    | some n => .literal [Char.ofNat n]
    | none => .class alphabet set

/-- Repeating what is always empty more than once changes nothing, so its counts are at most one. -/
def repeating (counts : Counts) (greedy : Bool) (sub : Expr) : Expr :=
  let counts := if sub.isBlank then counts.upToOne else counts
  if counts = .exactly 0 then .empty
  else if counts = .exactly 1 then sub
  else .repetition counts greedy sub

/-- Parts in sequence, in front of parts that are already joined. -/
def joinLiteral : Expr → List Expr → List Expr
  | .empty, rest => rest
  | .literal s, .literal t :: rest => .literal (s ++ t) :: rest
  | e, rest => e :: rest

/-- Direct parts of a sequence. -/
def parts : Expr → List Expr
  | .concat es => es
  | e => [e]

/-- Direct branches of a choice. -/
def branches : Expr → List Expr
  | .alternation es => es
  | e => [e]

def ofParts (es : List Expr) : Expr :=
  match es with
  | [] => .empty
  | [e] => e
  | es => .concat es

/-- One expression after the other. -/
def sequence (es : List Expr) : Expr := ofParts ((es.flatMap parts).foldr joinLiteral [])

/-- The character of a literal of one. -/
def singleton? : Expr → Option Nat
  | .literal [c] => some c.toNat
  | _ => none

def classSet? : Expr → Option CharSet
  | .class _ s => some s
  | _ => none

/-- One of several branches that share no beginning: all of them characters, or all of them classes,
make up one class. -/
def ofBranches (es : List Expr) : Expr :=
  match es with
  | [] => nothing
  | [e] => e
  | es =>
    match es.mapM singleton? with
    | some codes => ofClass .characters (CharSet.ofSpans (codes.map fun n => (n, n)))
    | none =>
      match es.mapM classSet? with
      | some sets => ofClass .characters (CharSet.unions sets)
      | none => .alternation es

/-- How many parts two sequences have in common at their beginning. -/
def commonLength : List Expr → List Expr → Nat
  | a :: as, b :: bs => if same a b then commonLength as bs + 1 else 0
  | _, _ => 0

/-- Parts at the beginning of every branch, if all branches are sequences. -/
def commonStart : List Expr → List Expr
  | .concat es :: rest => go es rest
  | _ => []
where
  go (start : List Expr) : List Expr → List Expr
    | [] => start
    | .concat es :: rest => go (start.take (commonLength start es)) rest
    | _ => []

/-- One of several expressions. A common beginning is written once, in front of the choice. -/
def choice (es : List Expr) : Expr :=
  let all := es.flatMap branches
  match all with
  | [] => nothing
  | [e] => e
  | all =>
    match commonStart all with
    | [] => ofBranches all
    | start =>
      sequence (start ++ [ofBranches (all.map fun e => sequence (e.parts.drop start.length))])

end Expr

end MockSchema.Pattern
