import MockSchema.Generator.Person
import MockSchema.Generator.Uuid
import MockSchema.Registry
import MockSchema.Schema.Generate
import MockSchema.Timestamp.Parse

/-!
# Generators

What a name in a schema can stand for. A generator is a plain description; a run gives it a world to draw
from: a random source, the time, and the counters that generators share.
-/

namespace MockSchema

/-- What a run works with. -/
structure World (σ : Type) where
  source : σ
  now : Instant
  counters : List Int64

namespace World

variable {σ : Type}

/-- Replaces the random source by the one that is left. -/
def draw {α : Type} (f : σ → α × σ) (w : World σ) : α × World σ :=
  let (a, s) := f w.source
  (a, { w with source := s })

instance [RandomSource σ] : RandomSource (World σ) where
  next32 := draw RandomSource.next32
  next64 := draw RandomSource.next64
  bytes count := draw (RandomSource.bytes count)

/-- Gives the number of a counter and moves the counter on. -/
def count (cell : Nat) (w : World σ) : Int64 × World σ :=
  let n := w.counters.getD cell 0
  (n, { w with counters := w.counters.set cell (n + 1) })

end World

/-- A source of values. -/
inductive Generator where
  | constant (v : Value)
  | failing (f : Failure)
  | counter (cell : Nat)
  | word
  | firstName | lastName | fullName | email | phoneNumber | uuid
  | timestampUntilNow | timestampNow
  | timestampBetween (start stop : Instant)
  | integer (r : Range)
  | float (min max : Binary64)
  | boolean (probability : Binary64)
  | oneOf (pool : List Value)
  | pattern (p : Pattern)
  deriving Inhabited

/-- A second between two instants, both included. Where the first is not before the last second it is the
first instant itself. -/
def Instant.between {σ : Type} [RandomSource σ] (start stop : Instant) : Gen σ Instant :=
  if stop.seconds ≤ start.seconds then pure start
  else do
    let seconds ← Random.between64 (Int64.ofInt start.seconds) (Int64.ofInt stop.seconds)
    return ⟨seconds.toInt, 0⟩

namespace Generator

variable {σ : Type} [RandomSource σ]

/-- One value of a generator. -/
def draw : Generator → Gen (World σ) Value
  | .constant v => pure v
  | .failing f => Gen.fail f
  | .counter cell => do return .int (← Gen.step (World.count cell))
  | .word => do return .int (Int64.ofNat (← Gen.step Random.word32))
  | .firstName => do return .string (← Person.firstName)
  | .lastName => do return .string (← Person.lastName)
  | .fullName => do return .string (← Person.fullName)
  | .email => do return .string (← Person.email)
  | .phoneNumber => do return .string (← Person.phoneNumber)
  | .uuid => do return .string (← Uuid.draw)
  | .timestampUntilNow => do
    let now ← Gen.step fun w : World σ => (w.now, w)
    return .string (← Instant.between .epoch now).text
  | .timestampNow => do
    let now ← Gen.step fun w : World σ => (w.now, w)
    return .string now.text
  | .timestampBetween start stop => do return .string (← Instant.between start stop).text
  | .integer r => do return .int (← Random.between64 r.min r.max)
  | .float min max => do return .float (← Random.betweenFloats min max)
  | .boolean probability => do return .bool (← Random.chance probability)
  | .oneOf pool => Random.pick pool
  | .pattern p => do return .string (← p.draw)

/-- The names that every schema can use. -/
def builtins : Registry Generator := Registry.ofPairs [
  ("name", .fullName), ("firstName", .firstName), ("lastName", .lastName),
  ("phoneNumber", .phoneNumber), ("timestamp", .timestampUntilNow), ("uuid", .uuid),
  ("email", .email)]

end Generator

end MockSchema
