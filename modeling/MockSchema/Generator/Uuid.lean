import MockSchema.Random.Gen

/-!
# Random identifiers of 128 bits

Four bits give the version and two the variant; the other 122 are random.
-/

namespace MockSchema.Uuid

/-- Puts the version into the high half of byte six and the variant into the top of byte eight. -/
def mark (bytes : List UInt8) : List UInt8 :=
  bytes.mapIdx fun i b =>
    if i = 6 then (b &&& 0x0F) ||| 0x40 else if i = 8 then (b &&& 0x3F) ||| 0x80 else b

def hexByte (b : UInt8) : List Char := [Nat.digitChar (b.toNat / 16), Nat.digitChar (b.toNat % 16)]

/-- Hexadecimal digits, with a hyphen behind four, six, eight and ten bytes. -/
def chars (bytes : List UInt8) : List Char :=
  (bytes.mapIdx fun i b => if i ∈ [4, 6, 8, 10] then '-' :: hexByte b else hexByte b).flatten

def draw {σ : Type} [RandomSource σ] : Gen σ String := do
  let bytes ← Gen.step (RandomSource.bytes 16)
  return String.ofList (chars (mark bytes))

end MockSchema.Uuid
