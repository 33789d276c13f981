import MockSchema.Pattern.Escape
import MockSchema.Proofs.ByteOrder

/-!
# Names of properties

The tables of the character database have no name with a backslash in it, and the loose form of a name keeps its
backslashes. So no text with a backslash names a property or a value of one (`backslash_not_mem_of_resolve`).
-/

namespace MockSchema

theorem Text.splitAtFirst_eq_append {mark cs before after : List Char}
    (found : splitAtFirst mark cs = some (before, after)) : cs = before ++ mark ++ after := by
  induction cs generalizing before with
  | nil => cases found
  | cons c r ih =>
    rw [splitAtFirst] at found
    split at found
    · next front =>
      cases found
      obtain ⟨rest, whole⟩ := List.isPrefixOf_iff_prefix.mp front
      rw [← whole, List.drop_left, List.nil_append]
    · obtain ⟨⟨before', after'⟩, found, same⟩ := Option.map_eq_some_iff.mp found
      cases same
      rw [ih found]
      rfl

namespace Unicode

theorem toLower_eq_backslash_iff {c : Char} : c.toLower = '\\' ↔ c = '\\' := by
  constructor
  · intro lower
    unfold Char.toLower at lower
    split at lower
    · next upper =>
      -- capital letters become small ones, which stand behind the backslash
      have value := congrArg (fun d : Char => d.val.toNat) lower
      have low : 'A'.val.toNat ≤ c.val.toNat := UInt32.le_iff_toNat_le.mp upper.1
      have high : c.val.toNat ≤ 'Z'.val.toNat := UInt32.le_iff_toNat_le.mp upper.2
      have step : ('a'.val - 'A'.val).toNat = 32 := rfl
      simp only [UInt32.toNat_add, step] at value
      have capital : 'A'.val.toNat = 65 ∧ 'Z'.val.toNat = 90 ∧ '\\'.val.toNat = 92 := ⟨rfl, rfl, rfl⟩
      omega
    · exact lower
  · rintro rfl
    rfl

/-- The loose form of a name has a backslash exactly if the name has one. -/
theorem backslash_mem_looseName_iff {cs : List Char} : '\\' ∈ (looseName cs).toList ↔ '\\' ∈ cs := by
  have bare (cs : List Char) :
      '\\' ∈ (cs.filter fun c => c.toNat < 0x80 && c ≠ ' ' && c ≠ '_' && c ≠ '-').map Char.toLower ↔
        '\\' ∈ cs := by
    simp only [List.mem_map, List.mem_filter, toLower_eq_backslash_iff]
    constructor
    · rintro ⟨_, ⟨inside, -⟩, rfl⟩
      exact inside
    · exact fun inside => ⟨_, ⟨inside, by decide⟩, rfl⟩
  unfold looseName
  dsimp only
  split
  · next i s rest =>
    split
    · next prefixed =>
      -- neither letter of the prefix is a backslash
      have letters : '\\' ∉ [i, s] := by
        rcases prefixed with ⟨rfl | rfl, rfl | rfl⟩ <;> decide
      have behind : '\\' ∈ i :: s :: rest ↔ '\\' ∈ rest := by
        rw [show i :: s :: rest = [i, s] ++ rest from rfl, List.mem_append, or_iff_right letters]
      rw [String.toList_ofList, behind, ← bare rest]
      split
      · next lone =>
        rw [lone]
        decide
      · exact Iff.rfl
    · rw [String.toList_ofList, bare]
  · rw [String.toList_ofList, bare]

/-- A text has no byte for a backslash. -/
def isFreeOfBackslash (s : String) : Bool := (Text.bytes s).all (· != 0x5C)

theorem backslash_not_mem_of_isFree {s : String} (free : isFreeOfBackslash s = true) : '\\' ∉ s.toList := by
  intro inside
  rw [isFreeOfBackslash, Text.bytes_eq_flatMap, List.all_eq_true] at free
  have byte : 0x5C ∈ s.toList.flatMap String.utf8EncodeChar :=
    List.mem_flatMap.mpr ⟨'\\', inside, by decide⟩
  cases free 0x5C byte

/-- The tables that names are looked up in. -/
def nameTables : List (List (String × List String)) :=
  [propertyNames, categoryNames, scriptNames, ageNames, graphemeBreakNames, wordBreakNames, sentenceBreakNames]

theorem isFree_of_mem_nameTables : ∀ names ∈ nameTables, ∀ row ∈ names,
    isFreeOfBackslash row.1 = true ∧ ∀ other ∈ row.2, isFreeOfBackslash other = true := by
  decide +kernel

theorem longName?_eq_none {names : List (String × List String)} (table : names ∈ nameTables) {loose : String}
    (backslash : '\\' ∈ loose.toList) : longName? names loose = none := by
  rw [longName?, Option.map_eq_none_iff, List.find?_eq_none]
  intro row inside same
  have rowFree := isFree_of_mem_nameTables names table row inside
  rw [Bool.or_eq_true, decide_eq_true_eq, List.contains_iff_mem] at same
  rcases same with rfl | other
  · exact backslash_not_mem_of_isFree rowFree.1 (backslash_mem_looseName_iff.mp backslash)
  · exact backslash_not_mem_of_isFree (rowFree.2 loose other) backslash

theorem categoryName?_eq_none {loose : String} (backslash : '\\' ∈ loose.toList) :
    categoryName? loose = none := by
  unfold categoryName?
  split
  · exact absurd backslash (by decide)
  · exact absurd backslash (by decide)
  · exact absurd backslash (by decide)
  · exact longName?_eq_none (by simp [nameTables]) backslash

/-- A text with a backslash is no query that can be resolved. -/
theorem ofName_error {text : List Char} (backslash : '\\' ∈ text) : ∃ e, ofName text = .error e := by
  have loose := backslash_mem_looseName_iff.mpr backslash
  unfold ofName
  dsimp only
  rw [longName?_eq_none (by simp [nameTables]) loose, ite_self, categoryName?_eq_none loose,
    longName?_eq_none (by simp [nameTables]) loose]
  exact ⟨_, rfl⟩

theorem ofValue_error {property value : List Char} (backslash : '\\' ∈ property ∨ '\\' ∈ value) :
    ∃ e, ofValue property value = .error e := by
  unfold ofValue
  dsimp only
  rcases backslash with inside | inside
  · rw [longName?_eq_none (by simp [nameTables]) (backslash_mem_looseName_iff.mpr inside)]
    exact ⟨_, rfl⟩
  · have loose := backslash_mem_looseName_iff.mpr inside
    have missing {names : List (String × List String)} (inside : names ∈ nameTables)
        (table : String → Option CharSet) :
        ∃ e, orValueError ((longName? names (looseName value)).bind table) = .error e := by
      rw [longName?_eq_none inside loose]
      exact ⟨_, rfl⟩
    split
    · exact ⟨_, rfl⟩
    · rw [categoryName?_eq_none loose]
      exact ⟨_, rfl⟩
    · exact missing (by simp [nameTables]) _
    · exact missing (by simp [nameTables]) _
    · exact missing (by simp [nameTables]) _
    · exact missing (by simp [nameTables]) _
    · exact missing (by simp [nameTables]) _
    · exact missing (by simp [nameTables]) _
    · exact ⟨_, rfl⟩

end Unicode

namespace Pattern

/-- A query that can be resolved was written without a backslash. -/
theorem backslash_not_mem_of_resolve {text : List Char} {s : CharSet}
    (resolved : (queryOf text).resolve = .ok s) : '\\' ∉ text := by
  intro inside
  have name {e : Unicode.QueryError} (fails : Unicode.ofName text = .error e) :
      (Unicode.Query.name text).resolve = .error e := by
    rw [Unicode.Query.resolve, fails]
    rfl
  have value {mark a b : List Char} (found : Text.splitAtFirst mark text = some (a, b))
      (other : '\\' ∉ mark) : ∃ e, (Unicode.Query.value a b).resolve = .error e := by
    rw [Text.splitAtFirst_eq_append found] at inside
    have parts : '\\' ∈ a ∨ '\\' ∈ b := by
      simpa [other] using inside
    obtain ⟨e, fails⟩ := Unicode.ofValue_error parts
    refine ⟨e, ?_⟩
    rw [Unicode.Query.resolve, fails]
    rfl
  obtain ⟨e, fails⟩ : ∃ e, (queryOf text).resolve = .error e := by
    unfold queryOf
    split
    · next found => exact value found (by decide)
    split
    · next found => exact value found (by decide)
    split
    · next found => exact value found (by decide)
    · obtain ⟨e, fails⟩ := Unicode.ofName_error inside
      exact ⟨e, name fails⟩
  cases resolved.symm.trans fails

end Pattern

end MockSchema
