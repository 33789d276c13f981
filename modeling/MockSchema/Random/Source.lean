/-!
# Random sources

A source is a state that gives words and moves on. Everything random in this library takes its words
from a source and returns the source that is left, so equal sources give equal results.
-/

namespace MockSchema

/-- A state that gives random words and the state after each. -/
class RandomSource (σ : Type u) where
  next32 : σ → UInt32 × σ
  next64 : σ → UInt64 × σ
  /-- The given number of bytes. -/
  bytes : Nat → σ → List UInt8 × σ

namespace Random

/-- The bytes of a word, low ones first. -/
def littleEndian (count : Nat) (word : Nat) : List UInt8 :=
  (List.range count).map fun i => (word / Nat.pow 256 i % 256).toUInt8

/-- Joins the bytes of successive words until there are enough. The last word may be used in part. -/
def fillFrom {σ : Type u} (size : Nat) (next : σ → Nat × σ) : Nat → Nat → σ → List UInt8 × σ
  | 0, _, s => ([], s)
  | words + 1, count, s =>
    let (w, s') := next s
    let (rest, s'') := fillFrom size next words (count - size) s'
    (littleEndian (min size count) w ++ rest, s'')

/-- Fills bytes from words of the given size, one word for each started group. -/
def fill {σ : Type u} (size : Nat) (next : σ → Nat × σ) (count : Nat) (s : σ) : List UInt8 × σ :=
  fillFrom size next ((count + size - 1) / size) count s

/-- A source that only gives 64-bit words: a short word is the low half of a long one. -/
@[reducible] def viaWords {σ : Type u} (next : σ → UInt64 × σ) : RandomSource σ where
  next32 s := let (w, s') := next s; (w.toUInt32, s')
  next64 := next
  bytes := fill 8 fun s => let (w, s') := next s; (w.toNat, s')

/-- A fixed word sequence and the place of the next word. -/
structure Stream where
  word : Nat → UInt64
  place : Nat

instance : RandomSource Stream := viaWords fun s => (s.word s.place, ⟨s.word, s.place + 1⟩)

/-- A word sequence that starts again after its last word. An empty sequence counts as zeros. -/
def Stream.cycle (words : Array UInt64) : Stream := ⟨fun n => words.getD (n % words.size) 0, 0⟩

/-- A counter whose steps are scrambled into words. -/
structure SplitMix where
  state : UInt64
  deriving DecidableEq, Repr

def SplitMix.next (s : SplitMix) : UInt64 × SplitMix :=
  let state := s.state + 0x9E3779B97F4A7C15
  let z := (state ^^^ (state >>> 30)) * 0xBF58476D1CE4E5B9
  let z := (z ^^^ (z >>> 27)) * 0x94D049BB133111EB
  (z ^^^ (z >>> 31), ⟨state⟩)

instance : RandomSource SplitMix := viaWords SplitMix.next

end Random

end MockSchema
