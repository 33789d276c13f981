import MockSchema.Pattern.ClassReader
import MockSchema.Schema.Parse

/-!
# Texts with escaped slashes

The text of a literal and the pattern in it differ where a slash is escaped. Behind a backslash that is no escape
itself stands the character that belongs to it; so both texts fall into the same pieces, a character by itself or
a backslash with its character, except that an escaped slash is a slash in the pattern (`Unescapes`). They do if
every slash of the literal stands behind an odd number of backslashes (`unescapes_unescapeSlashes`).

What the reader of patterns looks for in its text is the same in both: no blank, comment, operator or name
contains a slash or a backslash.
-/

namespace MockSchema

/-- The characters that the two texts can differ in. -/
def NoSlash (c : Char) : Prop := c ≠ '\\' ∧ c ≠ '/'

instance (c : Char) : Decidable (NoSlash c) := inferInstanceAs (Decidable (_ ∧ _))

theorem eq_or_eq_of_not_noSlash {c : Char} (other : ¬ NoSlash c) : c = '\\' ∨ c = '/' :=
  Decidable.or_iff_not_not_and_not.mpr other

/-- A text and the text with slashes for its escaped slashes, piece by piece. -/
inductive Unescapes : List Char → List Char → Prop
  | nil : Unescapes [] []
  | plain {c : Char} {r r' : List Char} (self : NoSlash c) (rest : Unescapes r r') :
      Unescapes (c :: r) (c :: r')
  | escape {c : Char} {r r' : List Char} (other : c ≠ '/') (rest : Unescapes r r') :
      Unescapes ('\\' :: c :: r) ('\\' :: c :: r')
  | slash {r r' : List Char} (rest : Unescapes r r') : Unescapes ('\\' :: '/' :: r) ('/' :: r')

/-! ## Unescaping -/

/-- The number of backslashes at the end of a text. -/
def endingBackslashes (cs : List Char) : Nat := (cs.reverse.takeWhile (· = '\\')).length

theorem endingBackslashes_concat (cs : List Char) (c : Char) :
    endingBackslashes (cs ++ [c]) = if c = '\\' then endingBackslashes cs + 1 else 0 := by
  by_cases backslash : c = '\\' <;> simp [endingBackslashes, backslash]

/-- Every slash stands behind an odd number of backslashes, the last of which escapes it. -/
def SlashesEscaped (cs : List Char) : Prop :=
  ∀ before after, cs = before ++ '/' :: after → endingBackslashes before % 2 = 1

theorem slashesEscaped_iff {cs : List Char} : SlashesEscaped cs ↔
    ∀ i < cs.length, cs[i]? = some '/' → endingBackslashes (cs.take i) % 2 = 1 := by
  constructor
  · intro escaped i inside slash
    refine escaped (cs.take i) (cs.drop (i + 1)) ?_
    obtain ⟨_, same⟩ := List.getElem?_eq_some_iff.mp slash
    rw [← same, List.getElem_cons_drop, List.take_append_drop]
  · rintro escaped before after rfl
    have odd := escaped before.length (by simp) (by simp)
    rwa [List.take_left] at odd

instance (cs : List Char) : Decidable (SlashesEscaped cs) := decidable_of_iff' _ slashesEscaped_iff

/-- A character is kept unless it is the backslash of an escaped slash. -/
theorem Reading.unescapeSlashes_cons {c : Char} {r : List Char} (kept : c = '\\' → r.head? ≠ some '/') :
    unescapeSlashes (c :: r) = c :: unescapeSlashes r := by
  rw [unescapeSlashes]
  rintro r' rfl rfl
  exact kept rfl rfl

/-- A text behind a part that ends with a whole piece is unescaped piece by piece. -/
theorem unescapes_behind : ∀ {before cs : List Char}, endingBackslashes before % 2 = 0 →
    SlashesEscaped (before ++ cs) → cs.getLast? ≠ some '\\' → Unescapes cs (Reading.unescapeSlashes cs)
  | _, [], _, _, _ => .nil
  | before, [c], whole, escaped, last => by
    have other : c ≠ '\\' := fun same => last (congrArg some same)
    have slash : c ≠ '/' := by
      rintro rfl
      have odd := escaped before [] rfl
      omega
    rw [Reading.unescapeSlashes_cons fun same => absurd same other]
    exact .plain ⟨other, slash⟩ .nil
  | before, c :: d :: r, whole, escaped, last => by
    rw [List.getLast?_cons_cons] at last
    by_cases backslash : c = '\\'
    · subst backslash
      -- the pair is a whole piece, whatever its second character is
      have parity : endingBackslashes (before ++ ['\\', d]) % 2 = 0 := by
        rw [List.append_cons, endingBackslashes_concat, endingBackslashes_concat, if_pos rfl]
        split <;> omega
      have rest : Unescapes r (Reading.unescapeSlashes r) := by
        refine unescapes_behind parity (by rwa [List.append_assoc]) fun same => last ?_
        rw [List.getLast?_cons, same]
        rfl
      by_cases slash : d = '/'
      · subst slash
        exact .slash rest
      · have kept : d = '\\' → r.head? ≠ some '/' := by
          rintro - next
          obtain ⟨r', rfl⟩ := List.head?_eq_some_iff.mp next
          have odd := escaped (before ++ ['\\', d]) r' (by simp)
          omega
        have first : (d :: r).head? ≠ some '/' := fun same => slash (Option.some.inj same)
        rw [Reading.unescapeSlashes_cons fun _ => first, Reading.unescapeSlashes_cons kept]
        exact .escape slash rest
    · have slash : c ≠ '/' := by
        rintro rfl
        have odd := escaped before (d :: r) rfl
        omega
      have parity : endingBackslashes (before ++ [c]) % 2 = 0 := by
        rw [endingBackslashes_concat, if_neg backslash]
      rw [Reading.unescapeSlashes_cons fun same => absurd same backslash]
      exact .plain ⟨backslash, slash⟩
        (unescapes_behind parity (by rwa [List.append_assoc]) last)

/-- A text whose slashes are escaped, and that does not end inside an escape, falls into pieces. -/
theorem unescapes_unescapeSlashes {cs : List Char} (escaped : SlashesEscaped cs)
    (last : cs.getLast? ≠ some '\\') : Unescapes cs (Reading.unescapeSlashes cs) :=
  @unescapes_behind [] cs rfl escaped last

/-! ## Looking for other things -/

namespace Unescapes

variable {r r' : List Char}

theorem eq_nil_iff (h : Unescapes r r') : r = [] ↔ r' = [] := by
  cases h <;> simp

/-- Plain characters come next in both texts or in neither. -/
theorem head?_eq_some_iff (h : Unescapes r r') {c : Char} (self : NoSlash c) :
    r.head? = some c ↔ r'.head? = some c := by
  cases h with
  | nil => exact Iff.rfl
  | plain => exact Iff.rfl
  | escape => exact Iff.rfl
  | slash => simp [self.1.symm, self.2.symm]

/-- A text without these characters stands in front of both or of neither, and behind it they go on alike. -/
theorem prefix_iff (h : Unescapes r r') {text : List Char} (self : ∀ c ∈ text, NoSlash c) :
    (text <+: r ↔ text <+: r') ∧
      (text <+: r → Unescapes (r.drop text.length) (r'.drop text.length)) := by
  induction text generalizing r r' with
  | nil => exact ⟨by simp, fun _ => h⟩
  | cons d text ih =>
    obtain ⟨first, others⟩ := List.forall_mem_cons.mp self
    cases h with
    | nil => simp
    | @plain c r r' self' rest =>
      obtain ⟨same, behind⟩ := ih rest others
      rw [List.cons_prefix_cons, List.cons_prefix_cons, same]
      exact ⟨Iff.rfl, fun front => behind (same.mpr front.2)⟩
    | escape => simp [first.1]
    | slash => simp [first.1, first.2]

end Unescapes

namespace Pattern

open Reader

variable {r r' : List Char}

theorem length_blanksEnd (inComment : Bool) (r : List Char) (p : Position) :
    (blanksEnd inComment r p).1.length ≤ r.length := by
  fun_induction blanksEnd inComment r p with
  | case1 => exact Nat.le_refl _
  | case2 p c r ih => exact Nat.le_succ_of_le ih
  | case3 => simp only [List.length_cons]; omega
  | case4 => simp only [List.length_cons]; omega
  | case5 => exact Nat.le_refl _

theorem isWhiteSpace_eq_false {c : Char} (other : ¬ NoSlash c) : Unicode.isWhiteSpace c = false := by
  rcases eq_or_eq_of_not_noSlash other with rfl | rfl <;> decide

/-- Behind blanks and comments both texts go on alike. A piece in a comment is skipped whole, for a backslash does
not end the line. -/
theorem unescapes_blanksEnd (h : Unescapes r r') (inComment : Bool) (p p' : Position) :
    Unescapes (blanksEnd inComment r p).1 (blanksEnd inComment r' p').1 := by
  have backslash := isWhiteSpace_eq_false (c := '\\') (by decide)
  have slash := isWhiteSpace_eq_false (c := '/') (by decide)
  induction h generalizing inComment p p' with
  | nil => exact .nil
  | @plain c r r' self rest ih =>
    cases inComment with
    | true => exact ih ..
    | false =>
      by_cases blank : Unicode.isWhiteSpace c = true
      · simp only [blanksEnd, blank]
        exact ih ..
      by_cases mark : c = '#'
      · simp only [blanksEnd, mark]
        exact ih ..
      · simp only [blanksEnd, blank, mark]
        exact .plain self rest
  | @escape c r r' other rest ih =>
    cases inComment with
    | true => exact ih ..
    | false =>
      simp only [blanksEnd, backslash]
      exact .escape other rest
  | slash rest ih =>
    cases inComment with
    | true => exact ih ..
    | false =>
      simp only [blanksEnd, backslash, slash]
      exact .slash rest

/-- The names of classes are made of letters. -/
theorem isAlpha_of_asciiClass? {name : List Char} {kind : AsciiClass} (known : asciiClass? name = some kind) :
    ∀ c ∈ name, c.isAlpha = true := by
  rw [← List.all_eq_true]
  have written {s : String} (same : String.ofList name = s) : name = s.toList := by
    rw [← same, String.toList_ofList]
  unfold asciiClass? at known
  split at known
  case h_15 => cases known
  all_goals
    rename_i same
    rw [written same]
    decide

theorem noSlash_of_isAlpha {c : Char} (alpha : c.isAlpha = true) : NoSlash c := by
  constructor <;> rintro rfl <;> cases alpha

/-- The text of a named class. -/
def namedClassText (negated : Bool) (name : List Char) : List Char :=
  '[' :: ':' :: ((if negated then ['^'] else []) ++ name ++ [':', ']'])

theorem noSlash_namedClassText {negated : Bool} {name : List Char} {kind : AsciiClass}
    (known : asciiClass? name = some kind) : ∀ c ∈ namedClassText negated name, NoSlash c := by
  have letters := fun c inside => noSlash_of_isAlpha (isAlpha_of_asciiClass? known c inside)
  intro c inside
  simp only [namedClassText, List.mem_cons, List.mem_append, List.not_mem_nil, or_false] at inside
  rcases inside with rfl | rfl | (caret | inside) | rfl | rfl
  · decide
  · decide
  · cases negated <;> simp at caret
    subst caret
    decide
  · exact letters c inside
  · decide
  · decide

theorem takeWhile_name {name : List Char} (letters : ∀ c ∈ name, c.isAlpha = true) (rest : List Char) :
    (name ++ ':' :: rest).takeWhile (fun c => !decide (c = ':')) = name := by
  rw [List.takeWhile_append_of_pos, List.takeWhile_cons_of_neg (by simp), List.append_nil]
  intro c inside
  rw [Bool.not_eq_true', decide_eq_false_iff_not]
  rintro rfl
  cases letters ':' inside

/-- A named class is found exactly where its text stands. -/
theorem namedClass?_eq_some_iff {start : Position} {cs : List Char} {item : ClassSet} {n : Nat} :
    namedClass? start cs = some (item, n) ↔ ∃ negated name kind, asciiClass? name = some kind ∧
      namedClassText negated name <+: cs ∧ n = (namedClassText negated name).length ∧
        item = .ascii ⟨start, (cs.take n).foldl Position.advance start⟩ kind negated := by
  constructor
  · intro found
    unfold namedClass? at found
    split at found
    · next r =>
      split at found
      next negated r' first =>
      have marked : r = (if negated then ['^'] else []) ++ r' := by
        split at first <;> cases first <;> rfl
      dsimp only at found
      split at found
      · next rest cut =>
        obtain ⟨kind, known, same⟩ := Option.map_eq_some_iff.mp found
        cases same
        have front := List.prefix_iff_eq_take.mp (List.takeWhile_prefix (l := r') (· ≠ ':'))
        have written := List.take_append_drop (r'.takeWhile (· ≠ ':')).length r'
        rw [cut, ← front] at written
        refine ⟨negated, _, kind, known, ⟨rest, ?_⟩, ?_, rfl⟩
        · rw [marked]
          conv => rhs; rw [← written]
          simp [namedClassText]
        · cases negated <;> simp [namedClassText] <;> omega
      · cases found
    · cases found
  · rintro ⟨negated, name, kind, known, ⟨rest, rfl⟩, rfl, rfl⟩
    have letters := isAlpha_of_asciiClass? known
    have text : namedClassText negated name ++ rest =
        '[' :: ':' :: ((if negated then ['^'] else []) ++ (name ++ ':' :: ']' :: rest)) := by
      simp [namedClassText]
    have length : (namedClassText negated name).length = 2 + (if negated then 1 else 0) + name.length + 2 := by
      cases negated <;> simp [namedClassText] <;> omega
    rw [length, text]
    cases negated with
    | true => simp [namedClass?, takeWhile_name letters, known]
    | false =>
      obtain ⟨c, name, rfl⟩ := List.exists_cons_of_ne_nil (l := name) (by rintro rfl; cases known)
      have first : c ≠ '^' := by
        rintro rfl
        cases letters '^' List.mem_cons_self
      have cut := takeWhile_name letters (']' :: rest)
      rw [List.cons_append] at cut
      simp [namedClass?, first, cut, known]

/-- Both texts have the same named class in front, or none, and behind it they go on alike. -/
theorem namedClass?_unescapes (h : Unescapes r r') (p p' : Position) :
    namedClass? p r = none ∧ namedClass? p' r' = none ∨
      ∃ x x' kind negated n, namedClass? p r = some (.ascii x kind negated, n) ∧
        namedClass? p' r' = some (.ascii x' kind negated, n) ∧
        0 < n ∧ n ≤ r.length ∧ n ≤ r'.length ∧ Unescapes (r.drop n) (r'.drop n) := by
  have here (negated : Bool) {name : List Char} {kind : AsciiClass} (known : asciiClass? name = some kind) :=
    h.prefix_iff (@noSlash_namedClassText negated name kind known)
  cases found : namedClass? p r with
  | none =>
    refine .inl ⟨rfl, Option.eq_none_iff_forall_ne_some.mpr fun ⟨item, n⟩ found' => ?_⟩
    obtain ⟨negated, name, kind, known, front, -⟩ := namedClass?_eq_some_iff.mp found'
    have again : namedClass? p r = some (_, _) :=
      namedClass?_eq_some_iff.mpr ⟨negated, name, kind, known, (here negated known).1.mpr front, rfl, rfl⟩
    cases found.symm.trans again
  | some entry =>
    obtain ⟨item, n⟩ := entry
    obtain ⟨negated, name, kind, known, front, rfl, rfl⟩ := namedClass?_eq_some_iff.mp found
    obtain ⟨same, behind⟩ := here negated known
    have front' := same.mp front
    exact .inr ⟨_, _, kind, negated, _, rfl,
      namedClass?_eq_some_iff.mpr ⟨negated, name, kind, known, front', rfl, rfl⟩,
      Nat.succ_pos _, front.length_le, front'.length_le, behind front⟩

end Pattern

end MockSchema
