import MockSchema.Binary64.Basic
import MockSchema.Entries

/-!
# Generated values

What a schema produces and what the encoders write: scalars, lists, and objects whose keys keep the
order of their first appearance.
-/

namespace MockSchema

/-- A value produced by a schema. -/
inductive Value where
  | null
  | bool (b : Bool)
  | int (i : Int64)
  | float (x : Binary64)
  | string (s : String)
  | array (items : List Value)
  | object (fields : List (String × Value))
  deriving Repr, Inhabited

namespace Value

def isNull : Value → Bool
  | null => true
  | _ => false

def asBool? : Value → Option Bool
  | bool b => some b
  | _ => none

def asInt? : Value → Option Int64
  | int i => some i
  | _ => none

/-- Integers are widened to the nearest float. -/
def asFloat? : Value → Option Binary64
  | float x => some x
  | int i => some (Binary64.ofInt i.toInt)
  | _ => none

def asString? : Value → Option String
  | string s => some s
  | _ => none

def asArray? : Value → Option (List Value)
  | array items => some items
  | _ => none

def asObject? : Value → Option (Entries Value)
  | object fields => some fields
  | _ => none

mutual

/-- Equality of values: floats compare as numbers, and the order of an object's keys does not count. -/
def same : Value → Value → Bool
  | null, null => true
  | bool a, bool b => a == b
  | int a, int b => a == b
  | float a, float b => a.same b
  | string a, string b => a == b
  | array a, array b => sameItems a b
  | object a, object b => a.length == b.length && sameFields a b
  | _, _ => false

def sameItems : List Value → List Value → Bool
  | [], [] => true
  | a :: as, b :: bs => same a b && sameItems as bs
  | _, _ => false

/-- Every field of the first object has an equal partner in the second. -/
def sameFields : List (String × Value) → Entries Value → Bool
  | [], _ => true
  | (k, a) :: rest, b =>
    (match Entries.get? k b with
      | some w => same a w
      | none => false) && sameFields rest b

end

end Value

end MockSchema
