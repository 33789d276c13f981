import MockSchema.Random.Source

/-!
# The seeded source

A block cipher of twelve rounds in counter mode, keyed from a 64-bit seed. The words of successive
blocks are given in order; a long word takes two of them, the low half first.
-/

namespace MockSchema.Random

/-- The key, the number of the next block, and the words of the current block not yet given. -/
structure ChaCha where
  key : List UInt32
  block : UInt64
  pending : List UInt32
  deriving DecidableEq, Repr

namespace ChaCha

def rotateLeft (x : UInt32) (n : UInt32) : UInt32 := (x <<< n) ||| (x >>> (32 - n))

/-- Mixes four words of the state. -/
def quarterRound (a b c d : Fin 16) (s : Vector UInt32 16) : Vector UInt32 16 :=
  let xa := s[a] + s[b]
  let xd := rotateLeft (s[d] ^^^ xa) 16
  let xc := s[c] + xd
  let xb := rotateLeft (s[b] ^^^ xc) 12
  let xa := xa + xb
  let xd := rotateLeft (xd ^^^ xa) 8
  let xc := xc + xd
  let xb := rotateLeft (xb ^^^ xc) 7
  (((s.set a xa).set b xb).set c xc).set d xd

/-- A round down the columns and one along the diagonals. -/
def doubleRound (s : Vector UInt32 16) : Vector UInt32 16 :=
  let s := quarterRound 0 4 8 12 s
  let s := quarterRound 1 5 9 13 s
  let s := quarterRound 2 6 10 14 s
  let s := quarterRound 3 7 11 15 s
  let s := quarterRound 0 5 10 15 s
  let s := quarterRound 1 6 11 12 s
  let s := quarterRound 2 7 8 13 s
  quarterRound 3 4 9 14 s

def rounds : Nat → Vector UInt32 16 → Vector UInt32 16
  | 0, s => s
  | n + 1, s => rounds n (doubleRound s)

/-- Four constants, the key, the block number and an empty nonce. -/
def initial (key : List UInt32) (block : UInt64) : Vector UInt32 16 :=
  let k (i : Nat) : UInt32 := key.getD i 0
  #v[0x61707865, 0x3320646E, 0x79622D32, 0x6B206574, k 0, k 1, k 2, k 3, k 4, k 5, k 6, k 7,
    block.toUInt32, (block >>> 32).toUInt32, 0, 0]

/-- The words of a block: the mixed state added to the initial one. -/
def blockWords (key : List UInt32) (block : UInt64) : List UInt32 :=
  let start := initial key block
  List.zipWith (· + ·) (rounds 6 start).toList start.toList

def next32 (s : ChaCha) : UInt32 × ChaCha :=
  match s.pending with
  | w :: rest => (w, { s with pending := rest })
  | [] =>
    let words := blockWords s.key s.block
    (words.headD 0, { s with block := s.block + 1, pending := words.drop 1 })

def next64 (s : ChaCha) : UInt64 × ChaCha :=
  let (low, s') := s.next32
  let (high, s'') := s'.next32
  (low.toUInt64 ||| (high.toUInt64 <<< 32), s'')

/-- Successive states of the generator that spreads a seed over a key, each giving one word. -/
def keyWords : Nat → UInt64 → List UInt32
  | 0, _ => []
  | n + 1, state =>
    let state := state * 6364136223846793005 + 11634580027462260723
    let x : UInt32 := (((state >>> 18) ^^^ state) >>> 27).toUInt32
    let turn : UInt32 := (state >>> 59).toUInt32
    ((x >>> turn) ||| (x <<< ((32 - turn) % 32))) :: keyWords n state

def ofSeed (seed : UInt64) : ChaCha := ⟨keyWords 8 seed, 0, []⟩

end ChaCha

instance : RandomSource ChaCha where
  next32 := ChaCha.next32
  next64 := ChaCha.next64
  bytes := fill 4 fun s => let (w, s') := s.next32; (w.toNat, s')

end MockSchema.Random
