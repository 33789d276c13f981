import Mathlib.Data.List.GetD
import Mathlib.Tactic.IntervalCases
import MockSchema.Generator.Uuid
import MockSchema.Proofs.Draws
import MockSchema.Proofs.IntegerText

/-!
# The bits of an identifier

Sixteen random bytes have 128 bits. Six of them are set, four to the version and two to the variant, and the
other 122 reach the text: whoever reads the text gets them all back. So two draws give the same text exactly
if their bytes agree on those bits (`Uuid.draw_keeps_bits`). The bits are named by their places here and not by
the masks that keep them.
-/

namespace MockSchema.Uuid

/-- A bit of some bytes, counted from the high bit of the first byte on. -/
def bit (bytes : List UInt8) (place : Nat) : Bool :=
  (bytes.getD (place / 8) 0).toBitVec.getMsbD (place % 8)

/-- The places that are set and the bits there: the version in the high half of byte six, and the variant in the
two highest bits of byte eight. -/
def markedBits : List (Nat × Bool) :=
  [(48, false), (49, true), (50, false), (51, false), (64, true), (65, false)]

/-- All other places in sixteen bytes. -/
def freeBits : List Nat := (List.range 128).filter fun place => (markedBits.lookup place).isNone

/-- The number in the high half of byte six. -/
def version (bytes : List UInt8) : Nat := (bytes.getD 6 0).toNat / 16

/-- The number in the two highest bits of byte eight. -/
def variant (bytes : List UInt8) : Nat := (bytes.getD 8 0).toNat / 64

/-! ## Bits of marked bytes -/

theorem bit_at (bytes : List UInt8) (i : Nat) {j : Nat} (inside : j < 8) :
    bit bytes (8 * i + j) = (bytes.getD i 0).toBitVec.getMsbD j := by
  have byte : (8 * i + j) / 8 = i := by omega
  have rest : (8 * i + j) % 8 = j := by omega
  rw [bit, byte, rest]

/-- Bytes are the same if all of their bits are. -/
theorem eq_of_bits {a b : List UInt8} (same : a.length = b.length)
    (bits : ∀ place < 8 * a.length, bit a place = bit b place) : a = b := by
  refine List.ext_getElem same fun i first second => UInt8.toBitVec_inj.mp ?_
  refine BitVec.eq_of_getMsbD_eq fun j inside => ?_
  have here := bits (8 * i + j) (by omega)
  rwa [bit_at a i inside, bit_at b i inside, List.getD_eq_getElem _ _ first,
    List.getD_eq_getElem _ _ second] at here

@[simp] theorem length_mark (bytes : List UInt8) : (mark bytes).length = bytes.length := by
  simp [mark]

/-- What becomes of the byte at an index. -/
theorem mark_getD {bytes : List UInt8} {i : Nat} (inside : i < bytes.length) :
    (mark bytes).getD i 0 =
      if i = 6 then (bytes.getD i 0 &&& 0x0F) ||| 0x40
      else if i = 8 then (bytes.getD i 0 &&& 0x3F) ||| 0x80 else bytes.getD i 0 := by
  rw [List.getD_eq_getElem _ _ (by simpa using inside), List.getD_eq_getElem _ _ inside]
  simp [mark]

theorem versionByte_bit (b : UInt8) {j : Nat} (inside : j < 8) :
    ((b &&& 0x0F) ||| 0x40).toBitVec.getMsbD j =
      (markedBits.lookup (8 * 6 + j)).getD (b.toBitVec.getMsbD j) := by
  interval_cases j <;> simp [markedBits, List.lookup_cons]

theorem variantByte_bit (b : UInt8) {j : Nat} (inside : j < 8) :
    ((b &&& 0x3F) ||| 0x80).toBitVec.getMsbD j =
      (markedBits.lookup (8 * 8 + j)).getD (b.toBitVec.getMsbD j) := by
  interval_cases j <;> simp [markedBits, List.lookup_cons]

/-- The marked bits are as the marks say, and the others as before. -/
theorem bit_mark {bytes : List UInt8} {place : Nat} (inside : place < 8 * bytes.length) :
    bit (mark bytes) place = (markedBits.lookup place).getD (bit bytes place) := by
  obtain ⟨i, j, small, rfl⟩ : ∃ i j, j < 8 ∧ place = 8 * i + j :=
    ⟨place / 8, place % 8, by omega, by omega⟩
  rw [bit_at _ i small, bit_at _ i small, mark_getD (by omega)]
  split
  · next version =>
    subst version
    exact versionByte_bit _ small
  split
  · next variant =>
    subst variant
    exact variantByte_bit _ small
  · next other other' =>
    have unmarked : markedBits.lookup (8 * i + j) = none := by
      have apart : ∀ p ∈ markedBits, p.1 / 8 = 6 ∨ p.1 / 8 = 8 := by decide
      rw [List.lookup_eq_none_iff]
      intro p listed
      have := apart p listed
      rw [bne_iff_ne]
      omega
    rw [unmarked, Option.getD_none]

theorem version_mark {bytes : List UInt8} (sixteen : bytes.length = 16) : version (mark bytes) = 4 := by
  rw [version, mark_getD (by omega), if_pos rfl, UInt8.toNat_or, UInt8.toNat_and,
    ← Nat.shiftRight_eq_div_pow _ 4, Nat.shiftRight_or_distrib, Nat.shiftRight_and_distrib]
  simp

theorem variant_mark {bytes : List UInt8} (sixteen : bytes.length = 16) : variant (mark bytes) = 2 := by
  rw [variant, mark_getD (by omega), if_neg (by decide), if_pos rfl, UInt8.toNat_or, UInt8.toNat_and,
    ← Nat.shiftRight_eq_div_pow _ 6, Nat.shiftRight_or_distrib, Nat.shiftRight_and_distrib]
  simp

theorem mem_freeBits_iff (place : Nat) :
    place ∈ freeBits ↔ place < 128 ∧ markedBits.lookup place = none := by
  simp [freeBits]

/-- Marking hides the marked bits and nothing else. -/
theorem mark_eq_mark_iff {a b : List UInt8} (first : a.length = 16) (second : b.length = 16) :
    mark a = mark b ↔ ∀ place ∈ freeBits, bit a place = bit b place := by
  have marked : ∀ place < 128, (bit (mark a) place = bit (mark b) place ↔
      (markedBits.lookup place = none → bit a place = bit b place)) := by
    intro place inside
    rw [bit_mark (by omega), bit_mark (by omega)]
    cases markedBits.lookup place <;> simp
  constructor
  · intro same place free
    obtain ⟨inside, unmarked⟩ := (mem_freeBits_iff place).mp free
    exact (marked place inside).mp (by rw [same]) unmarked
  · intro agree
    refine eq_of_bits (by simp [first, second]) fun place inside => ?_
    rw [length_mark, first] at inside
    exact (marked place inside).mpr fun unmarked =>
      agree place ((mem_freeBits_iff place).mpr ⟨inside, unmarked⟩)

/-! ## Hexadecimal text -/

/-- Bytes for pairs of hexadecimal digits. -/
def ofPairs? : List Char → Option (List UInt8)
  | [] => some []
  | [_] => none
  | a :: b :: r => do
    let high ← Text.digit? 16 a
    let low ← Text.digit? 16 b
    return (16 * high + low).toUInt8 :: (← ofPairs? r)

/-- The bytes whose digits a text consists of, hyphens aside. -/
def read? (cs : List Char) : Option (List UInt8) := ofPairs? (cs.filter (· ≠ '-'))

def hexDigits : List Char :=
  ['0', '1', '2', '3', '4', '5', '6', '7', '8', '9', 'a', 'b', 'c', 'd', 'e', 'f']

theorem digitChar_mem : ∀ d < 16, Nat.digitChar d ∈ hexDigits := by decide

theorem mem_hexByte {b : UInt8} {c : Char} (member : c ∈ hexByte b) : c ∈ hexDigits := by
  have small := b.toNat_lt
  simp only [hexByte, List.mem_cons, List.not_mem_nil, or_false] at member
  rcases member with rfl | rfl
  · exact digitChar_mem _ (by omega)
  · exact digitChar_mem _ (by omega)

theorem hexByte_filter (b : UInt8) : (hexByte b).filter (· ≠ '-') = hexByte b := by
  refine List.filter_eq_self.mpr fun c member => ?_
  have hyphen : '-' ∉ hexDigits := by decide
  simp only [decide_not, Bool.not_eq_true', decide_eq_false_iff_not]
  rintro rfl
  exact hyphen (mem_hexByte member)

theorem ofPairs?_flatMap_hexByte (bytes : List UInt8) : ofPairs? (bytes.flatMap hexByte) = some bytes := by
  induction bytes with
  | nil => rfl
  | cons b rest ih =>
    have small := b.toNat_lt
    have value : 16 * (b.toNat / 16) + b.toNat % 16 = b.toNat := by omega
    have high : Text.digit? 16 (Nat.digitChar (b.toNat / 16)) = some (b.toNat / 16) :=
      Text.digit?_digitChar (Nat.le_refl 16) (by omega)
    have low : Text.digit? 16 (Nat.digitChar (b.toNat % 16)) = some (b.toNat % 16) :=
      Text.digit?_digitChar (Nat.le_refl 16) (by omega)
    simp only [List.flatMap_cons, hexByte, List.cons_append, List.nil_append, ofPairs?, high, low, ih,
      value, Option.bind_eq_bind, Option.bind_some]
    exact congrArg some (congrArg (· :: rest) b.ofNat_toNat)

/-- Hyphens apart, a text consists of the digits of its bytes. -/
theorem chars_filter (bytes : List UInt8) :
    (chars bytes).filter (· ≠ '-') = bytes.flatMap hexByte := by
  have each : ∀ part : Nat → UInt8 → List Char, (∀ i b, (part i b).filter (· ≠ '-') = hexByte b) →
      ((bytes.mapIdx part).flatten).filter (· ≠ '-') = bytes.flatMap hexByte := by
    induction bytes with
    | nil => exact fun _ _ => rfl
    | cons b rest ih =>
      intro part plain
      rw [List.mapIdx_cons, List.flatten_cons, List.filter_append, plain,
        ih _ fun i => plain (i + 1), List.flatMap_cons]
  refine each _ fun i b => ?_
  split
  · rw [List.filter_cons_of_neg (by decide), hexByte_filter]
  · exact hexByte_filter b

theorem read?_chars (bytes : List UInt8) : read? (chars bytes) = some bytes := by
  rw [read?, chars_filter, ofPairs?_flatMap_hexByte]

theorem chars_injective {a b : List UInt8} (same : chars a = chars b) : a = b := by
  have first := read?_chars a
  rw [same, read?_chars] at first
  exact (Option.some.inj first).symm

/-- The bytes of the five groups. -/
def groups (bytes : List UInt8) : List (List UInt8) :=
  [bytes.take 4, (bytes.drop 4).take 2, (bytes.drop 6).take 2, (bytes.drop 8).take 2, bytes.drop 10]

theorem chars_eq_intercalate {bytes : List UInt8} (sixteen : bytes.length = 16) :
    chars bytes = ['-'].intercalate ((groups bytes).map fun group => group.flatMap hexByte) := by
  match bytes, sixteen with
  | [_, _, _, _, _, _, _, _, _, _, _, _, _, _, _, _], _ =>
    simp [chars, groups, List.intercalate]

theorem length_flatMap_hexByte (bytes : List UInt8) :
    (bytes.flatMap hexByte).length = 2 * bytes.length := by
  induction bytes with
  | nil => rfl
  | cons b rest ih =>
    simp only [List.flatMap_cons, List.length_append, ih, hexByte, List.length_cons, List.length_nil]
    omega

/-! ## Draws -/

/-- Five groups of lower-case hexadecimal digits with hyphens between them, 36 characters together. -/
structure IsGrouped (cs : List Char) : Prop where
  length : cs.length = 36
  groups : ∃ parts : List (List Char), cs = ['-'].intercalate parts ∧
    parts.map List.length = [8, 4, 4, 4, 12] ∧ ∀ part ∈ parts, ∀ c ∈ part, c ∈ hexDigits

/-- What the text for some random bytes says. -/
structure Spells (bytes : List UInt8) (text : String) : Prop where
  grouped : IsGrouped text.toList
  /-- The digits are those of marked bytes, which have all the free bits of the random ones. -/
  bits : ∃ marked, read? text.toList = some marked ∧ marked.length = 16 ∧ version marked = 4 ∧
    variant marked = 2 ∧ ∀ place ∈ freeBits, bit marked place = bit bytes place

theorem isGrouped_chars {bytes : List UInt8} (sixteen : bytes.length = 16) : IsGrouped (chars bytes) := by
  have parts : ((groups bytes).map fun group => group.flatMap hexByte).map List.length =
      [8, 4, 4, 4, 12] := by
    simp only [groups, List.map_cons, List.map_nil, length_flatMap_hexByte, List.length_take,
      List.length_drop, sixteen]
    rfl
  refine ⟨?_, _, chars_eq_intercalate sixteen, parts, ?_⟩
  · rw [chars_eq_intercalate sixteen]
    simp only [groups, List.map_cons, List.map_nil, List.intercalate, List.intersperse_cons_cons,
      List.intersperse_singleton, List.flatten_cons, List.flatten_nil, List.length_append,
      length_flatMap_hexByte, List.length_take, List.length_drop, List.length_cons, List.length_nil, sixteen]
    rfl
  · intro part listed c member
    obtain ⟨group, -, rfl⟩ := List.mem_map.mp listed
    obtain ⟨b, -, member⟩ := List.mem_flatMap.mp member
    exact mem_hexByte member

theorem spells_mark {bytes : List UInt8} (sixteen : bytes.length = 16) :
    Spells bytes (String.ofList (chars (mark bytes))) where
  grouped := by
    rw [String.toList_ofList]
    exact isGrouped_chars ((length_mark bytes).trans sixteen)
  bits := by
    rw [String.toList_ofList]
    refine ⟨mark bytes, read?_chars _, (length_mark bytes).trans sixteen, version_mark sixteen,
      variant_mark sixteen, fun place free => ?_⟩
    obtain ⟨inside, unmarked⟩ := (mem_freeBits_iff place).mp free
    rw [bit_mark (by omega), unmarked, Option.getD_none]

theorem draw_run {σ : Type} [RandomSource σ] (s : σ) :
    (draw : Gen σ String).runFrom s =
      (.ok (String.ofList (chars (mark (RandomSource.bytes 16 s).1))), (RandomSource.bytes 16 s).2) := rfl

/-- Wherever sixteen random bytes come from, the text of the identifier spells all of their bits apart from six, and
two draws give the same text exactly if their bytes agree on these 122 bits. -/
theorem draw_keeps_bits {σ τ : Type} [RandomSource σ] [RandomSource τ] {s s' : σ} {t t' : τ}
    {a b : List UInt8} (first : RandomSource.bytes 16 s = (a, s')) (second : RandomSource.bytes 16 t = (b, t'))
    (sixteen : a.length = 16) (sixteen' : b.length = 16) :
    freeBits.length = 122 ∧ ∃ x y : String, draw.runFrom s = (.ok x, s') ∧ draw.runFrom t = (.ok y, t') ∧
      Spells a x ∧ Spells b y ∧ (x = y ↔ ∀ place ∈ freeBits, bit a place = bit b place) := by
  refine ⟨by decide +kernel, _, _, ?_, ?_, spells_mark sixteen, spells_mark sixteen', ?_⟩
  · rw [draw_run, first]
  · rw [draw_run, second]
  · rw [← mark_eq_mark_iff sixteen sixteen', String.ofList_inj]
    exact ⟨chars_injective, congrArg chars⟩

/-- Words that differ in the marked bits alone lead to one text. -/
theorem draw_keeps_bits_marked :
    let s := Random.Stream.cycle #[0xFFFFFFFFFFFFFFFF]
    let t := Random.Stream.cycle #[0xFF0FFFFFFFFFFFFF, 0xFFFFFFFFFFFFFF3F]
    let a := (RandomSource.bytes 16 s).1
    let b := (RandomSource.bytes 16 t).1
    a.length = 16 ∧ b.length = 16 ∧ a ≠ b ∧ ∃ x : String, (draw.runFrom s).1 = .ok x ∧
      (draw.runFrom t).1 = .ok x ∧ Spells a x ∧ Spells b x := by
  intro s t a b
  have sixteen : a.length = 16 := by decide
  have sixteen' : b.length = 16 := by decide
  have agree : ∀ place ∈ freeBits, bit a place = bit b place := by decide +kernel
  obtain ⟨-, x, y, first, second, spells, spells', same⟩ :=
    draw_keeps_bits (s := s) (t := t) rfl rfl sixteen sixteen'
  cases same.mpr agree
  exact ⟨sixteen, sixteen', by decide, x, by rw [first], by rw [second], spells, spells'⟩

end MockSchema.Uuid
