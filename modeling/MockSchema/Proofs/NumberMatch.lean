import MockSchema.Proofs.FirstLetter
import MockSchema.Proofs.Rescanning

/-!
# Numbers are matched as far as they go

`words` are the numbers of a schema text: an optional minus, an integer part without leading zeros,
an optional fraction and an optional exponent. From a digit or a minus the scanner takes the longest piece that a
number can begin with (`LongestStart`). The piece is a number, or it is the lexeme of the error; only behind an
integer part that is a lone zero a digit is taken along into the error (`scan_longest_number`).

What may still follow inside a number depends only on the place that was reached in it. Each place has a language
of what completes a number from there, and one character leads from a place to at most one other
(`cons_mem_completions_iff`), so a piece is the longest one as soon as no place is behind its next character.
-/

namespace MockSchema.Token.Number

open Words

/-! ## The grammar -/

def anyDigits : Language Char := {w | ∀ c ∈ w, c.isDigit = true}

def someDigits : Language Char := oneOf Char.isDigit * anyDigits

def minus : Language Char := {['-']}

def loneZero : Language Char := {['0']}

/-- No zero stands in front of other digits. -/
def wholePart : Language Char := loneZero + oneOf (fun c => c.isDigit && c ≠ '0') * anyDigits

def fractionText : Language Char := {['.']} * someDigits

def exponentText : Language Char :=
  oneOf (fun c => c = 'e' || c = 'E') * ((1 + oneOf fun c => c = '+' || c = '-') * someDigits)

def words : Language Char :=
  (1 + minus) * (wholePart * ((1 + fractionText) * (1 + exponentText)))

/-- The longest piece from the front of a text that begins a word of the language. -/
structure LongestStart (l : Language Char) (text piece : List Char) : Prop where
  front : piece <+: text
  begins : ∃ w ∈ l, piece <+: w
  longest : ∀ other, other <+: text → (∃ w ∈ l, other <+: w) → other.length ≤ piece.length

/-! ## Places in a number -/

/-- How far a number has been read. -/
inductive Place where
  | start | sign | zero | whole | point | fraction | mark | markSign | exponent
  deriving DecidableEq, Repr

namespace Place

/-- The place behind a character of the integer part. -/
def nextWhole? (c : Char) : Option Place :=
  if c = '0' then some .zero else if c.isDigit then some .whole else none

/-- The place behind the mark of an exponent. -/
def nextMark? (c : Char) : Option Place := if c = 'e' ∨ c = 'E' then some .mark else none

/-- The place behind what follows an integer part. -/
def nextTail? (c : Char) : Option Place := if c = '.' then some .point else nextMark? c

/-- The place behind one more character, if a number can go on with it. -/
def next? : Place → Char → Option Place
  | .start, c => if c = '-' then some .sign else nextWhole? c
  | .sign, c => nextWhole? c
  | .zero, c => nextTail? c
  | .whole, c => if c.isDigit then some .whole else nextTail? c
  | .point, c => if c.isDigit then some .fraction else none
  | .fraction, c => if c.isDigit then some .fraction else nextMark? c
  | .mark, c =>
    if c = '+' ∨ c = '-' then some .markSign else if c.isDigit then some .exponent else none
  | .markSign, c => if c.isDigit then some .exponent else none
  | .exponent, c => if c.isDigit then some .exponent else none

/-- What was read is a number already. -/
def isComplete : Place → Bool
  | .zero | .whole | .fraction | .exponent => true
  | _ => false

/-- The kind of a number that ends here. -/
def kind : Place → TokenKind
  | .start | .sign | .zero | .whole => .integer
  | _ => .float

/-- What makes up a number from here on. -/
def completions : Place → Language Char
  | .start => words
  | .sign => wholePart * ((1 + fractionText) * (1 + exponentText))
  | .zero => (1 + fractionText) * (1 + exponentText)
  | .whole => anyDigits * ((1 + fractionText) * (1 + exponentText))
  | .point => someDigits * (1 + exponentText)
  | .fraction => anyDigits * (1 + exponentText)
  | .mark => (1 + oneOf fun c => c = '+' || c = '-') * someDigits
  | .markSign => someDigits
  | .exponent => anyDigits

end Place

section

variable {c : Char} {w : List Char}

theorem cons_mem_anyDigits_mul_iff {l : Language Char} :
    c :: w ∈ anyDigits * l ↔ c.isDigit = true ∧ w ∈ anyDigits * l ∨ c :: w ∈ l := by
  simp only [Language.mem_mul]
  constructor
  · rintro ⟨a, digits, b, inside, same⟩
    cases a with
    | nil => exact .inr (same ▸ inside)
    | cons d a =>
      obtain ⟨rfl, rfl⟩ := List.cons.inj same
      obtain ⟨digit, digits⟩ := List.forall_mem_cons.mp digits
      exact .inl ⟨digit, a, digits, b, inside, rfl⟩
  · rintro (⟨digit, a, digits, b, inside, rfl⟩ | inside)
    · exact ⟨c :: a, List.forall_mem_cons.mpr ⟨digit, digits⟩, b, inside, rfl⟩
    · exact ⟨[], List.forall_mem_nil _, c :: w, inside, rfl⟩

theorem cons_mem_someDigits_mul_iff {l : Language Char} :
    c :: w ∈ someDigits * l ↔ c.isDigit = true ∧ w ∈ anyDigits * l := by
  rw [someDigits, mul_assoc, cons_mem_oneOf_mul_iff]

theorem cons_mem_anyDigits_iff : c :: w ∈ anyDigits ↔ c.isDigit = true ∧ w ∈ anyDigits :=
  List.forall_mem_cons

theorem cons_mem_someDigits_iff : c :: w ∈ someDigits ↔ c.isDigit = true ∧ w ∈ anyDigits :=
  cons_mem_oneOf_mul_iff

/-- Only the mark of an exponent goes on behind a fraction. -/
theorem cons_mem_exponent_iff :
    c :: w ∈ 1 + exponentText ↔ ∃ q, Place.nextMark? c = some q ∧ w ∈ q.completions := by
  have mark : c :: w ∈ 1 + exponentText ↔ (c = 'e' ∨ c = 'E') ∧ w ∈ Place.mark.completions := by
    simp [Language.mem_add, exponentText, cons_mem_oneOf_mul_iff, Place.completions]
  rw [mark, Place.nextMark?]
  split
  · next same => simp [same]
  · next other => simp [other]

/-- A point or the mark of an exponent goes on behind an integer part. -/
theorem cons_mem_tail_iff :
    c :: w ∈ (1 + fractionText) * (1 + exponentText) ↔
      ∃ q, Place.nextTail? c = some q ∧ w ∈ q.completions := by
  rw [mem_optional_mul_iff, cons_mem_exponent_iff, fractionText, mul_assoc, cons_mem_letter_mul_iff,
    Place.nextTail?]
  split
  · next point =>
    subst point
    simp [Place.nextMark?, Place.completions]
  · next other => simp [other]

/-- A digit begins an integer part, which goes on only behind a digit other than zero. -/
theorem cons_mem_whole_iff :
    c :: w ∈ wholePart * ((1 + fractionText) * (1 + exponentText)) ↔
      ∃ q, Place.nextWhole? c = some q ∧ w ∈ q.completions := by
  rw [wholePart, add_mul, Language.mem_add, loneZero, cons_mem_letter_mul_iff, mul_assoc,
    cons_mem_oneOf_mul_iff, Place.nextWhole?]
  split
  · next zero => simp [zero, Place.completions]
  · next other =>
    split
    · next digit => simp [other, digit, Place.completions]
    · next stops => simp [other, stops]

theorem nextMark?_of_isDigit (digit : c.isDigit = true) : Place.nextMark? c = none := by
  refine if_neg ?_
  rintro (rfl | rfl) <;> cases digit

theorem nextTail?_of_isDigit (digit : c.isDigit = true) : Place.nextTail? c = none := by
  rw [Place.nextTail?, if_neg, nextMark?_of_isDigit digit]
  rintro rfl
  cases digit

/-- A completion goes on from the place behind its first character. -/
theorem cons_mem_completions_iff (p : Place) :
    c :: w ∈ p.completions ↔ ∃ q, p.next? c = some q ∧ w ∈ q.completions := by
  cases p with
  | start =>
    rw [Place.completions, words, mem_optional_mul_iff, cons_mem_whole_iff, minus,
      cons_mem_letter_mul_iff, Place.next?]
    split
    · next sign =>
      subst sign
      simp [Place.nextWhole?, Place.completions]
    · next other => simp [other]
  | sign => exact cons_mem_whole_iff
  | zero => exact cons_mem_tail_iff
  | whole =>
    rw [Place.completions, cons_mem_anyDigits_mul_iff, cons_mem_tail_iff, Place.next?]
    split
    · next digit => simp [digit, nextTail?_of_isDigit digit, Place.completions]
    · next stops => simp [stops]
  | point =>
    rw [Place.completions, cons_mem_someDigits_mul_iff, Place.next?]
    split
    · next digit => simp [digit, Place.completions]
    · next stops => simp [stops]
  | fraction =>
    rw [Place.completions, cons_mem_anyDigits_mul_iff, cons_mem_exponent_iff, Place.next?]
    split
    · next digit => simp [digit, nextMark?_of_isDigit digit, Place.completions]
    · next stops => simp [stops]
  | mark =>
    rw [Place.completions, mem_optional_mul_iff, cons_mem_someDigits_iff, cons_mem_oneOf_mul_iff,
      Place.next?]
    split
    · next sign =>
      rcases sign with rfl | rfl <;> simp [Place.completions]
    · next other =>
      split
      · next digit => simp [not_or.mp other, digit, Place.completions]
      · next stops => simp [not_or.mp other, stops]
  | markSign =>
    rw [Place.completions, cons_mem_someDigits_iff, Place.next?]
    split
    · next digit => simp [digit, Place.completions]
    · next stops => simp [stops]
  | exponent =>
    rw [Place.completions, cons_mem_anyDigits_iff, Place.next?]
    split
    · next digit => simp [digit, Place.completions]
    · next stops => simp [stops]

end

theorem nil_mem_anyDigits : [] ∈ anyDigits := List.forall_mem_nil _

theorem nil_notMem_someDigits : [] ∉ someDigits := by
  rw [someDigits, nil_mem_mul_iff]
  rintro ⟨⟨c, same, -⟩, -⟩
  cases same

theorem nil_mem_optional {l : Language Char} : [] ∈ 1 + l := .inl rfl

/-- A number may end at a place exactly if what was read is complete. -/
theorem nil_mem_completions_iff (p : Place) : [] ∈ p.completions ↔ p.isComplete = true := by
  have tail : [] ∈ (1 + fractionText) * (1 + exponentText) :=
    nil_mem_mul_iff.mpr ⟨nil_mem_optional, nil_mem_optional⟩
  have whole : [] ∉ wholePart := by
    rintro (zero | digits)
    · cases zero
    · obtain ⟨⟨c, same, -⟩, -⟩ := nil_mem_mul_iff.mp digits
      cases same
  cases p with
  | start => simp [Place.completions, Place.isComplete, words, nil_mem_mul_iff, whole]
  | sign => simp [Place.completions, Place.isComplete, nil_mem_mul_iff, whole]
  | zero => exact iff_of_true tail rfl
  | whole => exact iff_of_true (nil_mem_mul_iff.mpr ⟨nil_mem_anyDigits, tail⟩) rfl
  | point => simp [Place.completions, Place.isComplete, nil_mem_mul_iff, nil_notMem_someDigits]
  | fraction =>
    exact iff_of_true (nil_mem_mul_iff.mpr ⟨nil_mem_anyDigits, nil_mem_optional⟩) rfl
  | mark => simp [Place.completions, Place.isComplete, nil_mem_mul_iff, nil_notMem_someDigits]
  | markSign => simp [Place.completions, Place.isComplete, nil_notMem_someDigits]
  | exponent => exact iff_of_true nil_mem_anyDigits rfl

/-- A number can be made up from every place. -/
theorem exists_completion (p : Place) : ∃ w, w ∈ p.completions := by
  have complete : ∀ q : Place, q.isComplete = true → [] ∈ q.completions :=
    fun q => (nil_mem_completions_iff q).mpr
  have digit : ∀ {q : Place}, (∃ q', q.next? '0' = some q' ∧ q'.isComplete = true) →
      ∃ w, w ∈ q.completions := by
    rintro q ⟨q', leads, ends⟩
    exact ⟨['0'], (cons_mem_completions_iff q).mpr ⟨q', leads, complete q' ends⟩⟩
  cases p with
  | zero | whole | fraction | exponent => exact ⟨[], complete _ rfl⟩
  | start | sign | point | mark | markSign => exact digit ⟨_, rfl, rfl⟩

/-! ## From place to place -/

/-- The place behind some characters. -/
def Place.run? (p : Place) : List Char → Option Place
  | [] => some p
  | c :: r => (p.next? c).bind (·.run? r)

theorem append_mem_completions_iff (p : Place) (cs w : List Char) :
    cs ++ w ∈ p.completions ↔ ∃ q, p.run? cs = some q ∧ w ∈ q.completions := by
  induction cs generalizing p with
  | nil => simp [Place.run?]
  | cons c r ih =>
    rw [List.cons_append, cons_mem_completions_iff, Place.run?]
    cases p.next? c with
    | none => simp
    | some q => simp [ih]

theorem run?_append (p : Place) (cs ds : List Char) :
    p.run? (cs ++ ds) = (p.run? cs).bind (·.run? ds) := by
  induction cs generalizing p with
  | nil => rfl
  | cons c r ih =>
    rw [List.cons_append, Place.run?, Place.run?]
    cases p.next? c with
    | none => rfl
    | some q => exact ih q

/-- A piece begins a number exactly if a place is behind it. -/
theorem begins_iff (piece : List Char) :
    (∃ w ∈ words, piece <+: w) ↔ ∃ q, Place.start.run? piece = some q := by
  constructor
  · rintro ⟨w, inside, rest, rfl⟩
    obtain ⟨q, leads, -⟩ := (append_mem_completions_iff .start piece rest).mp inside
    exact ⟨q, leads⟩
  · rintro ⟨q, leads⟩
    obtain ⟨rest, inside⟩ := exists_completion q
    exact ⟨piece ++ rest, (append_mem_completions_iff .start piece rest).mpr ⟨q, leads, inside⟩,
      List.prefix_append piece rest⟩

/-- A piece is a number exactly if the place behind it is complete. -/
theorem mem_words_iff {piece : List Char} {q : Place} (leads : Place.start.run? piece = some q) :
    piece ∈ words ↔ q.isComplete = true := by
  have ends := append_mem_completions_iff .start piece []
  rw [List.append_nil, leads] at ends
  rw [← nil_mem_completions_iff]
  exact ends.trans (by simp)

/-- A piece is the longest one if no place is behind its next character. -/
theorem longestStart {piece rest : List Char} {q : Place} (leads : Place.start.run? piece = some q)
    (stops : ∀ c ∈ rest.head?, q.next? c = none) : LongestStart words (piece ++ rest) piece := by
  refine ⟨List.prefix_append piece rest, (begins_iff piece).mpr ⟨q, leads⟩, ?_⟩
  intro other front begins
  by_contra longer
  obtain ⟨c, r, rfl⟩ : ∃ c r, rest = c :: r := by
    apply List.exists_cons_of_ne_nil
    rintro rfl
    have bound := front.length_le
    rw [List.append_nil] at bound
    exact longer bound
  have goesOn : piece ++ [c] <+: other := by
    refine List.prefix_of_prefix_length_le ⟨r, by simp⟩ front ?_
    rw [List.length_append, List.length_singleton]
    omega
  obtain ⟨w, inside, begins⟩ := begins
  obtain ⟨q', leads'⟩ := (begins_iff _).mp ⟨w, inside, goesOn.trans begins⟩
  rw [run?_append, leads, Option.bind_some, Place.run?, stops c rfl] at leads'
  cases leads'

/-! ## Kinds -/

/-- A number with one of these characters is no integer. -/
def floatMarks : List Char := ['.', 'e', 'E']

theorem notMem_floatMarks_of_isDigit {c : Char} (digit : c.isDigit = true) : c ∉ floatMarks := by
  rintro (_ | ⟨_, _ | ⟨_, _ | ⟨_, ⟨⟩⟩⟩⟩) <;> cases digit

theorem kind_nextMark? {c : Char} {q : Place} (leads : Place.nextMark? c = some q) :
    q.kind = .float ∧ c ∈ floatMarks := by
  unfold Place.nextMark? at leads
  split at leads
  · next mark =>
    cases leads
    exact ⟨rfl, by rcases mark with rfl | rfl <;> decide⟩
  · cases leads

theorem kind_nextTail? {c : Char} {q : Place} (leads : Place.nextTail? c = some q) :
    q.kind = .float ∧ c ∈ floatMarks := by
  unfold Place.nextTail? at leads
  split at leads
  · next point =>
    cases leads
    exact ⟨rfl, point ▸ by decide⟩
  · exact kind_nextMark? leads

theorem kind_nextWhole? {c : Char} {q : Place} (leads : Place.nextWhole? c = some q) :
    q.kind = .integer ∧ c ∉ floatMarks := by
  unfold Place.nextWhole? at leads
  split at leads
  · next zero =>
    cases leads
    exact ⟨rfl, zero ▸ by decide⟩
  split at leads
  · next digit =>
    cases leads
    exact ⟨rfl, notMem_floatMarks_of_isDigit digit⟩
  · cases leads

/-- One character makes a float of a number exactly if it is a mark of one. -/
theorem kind_next? {p q : Place} {c : Char} (leads : p.next? c = some q) :
    q.kind = .float ↔ p.kind = .float ∨ c ∈ floatMarks := by
  have whole (integer : p.kind = .integer) (leads : Place.nextWhole? c = some q) :
      q.kind = .float ↔ p.kind = .float ∨ c ∈ floatMarks := by
    obtain ⟨kind, mark⟩ := kind_nextWhole? leads
    simp [integer, kind, mark]
  cases p with
  | start =>
    rw [Place.next?] at leads
    split at leads
    · next sign =>
      cases leads
      subst sign
      decide
    · exact whole rfl leads
  | sign => exact whole rfl leads
  | zero =>
    obtain ⟨kind, mark⟩ := kind_nextTail? leads
    simp [kind, mark]
  | whole =>
    rw [Place.next?] at leads
    split at leads
    · next digit =>
      cases leads
      simp [Place.kind, notMem_floatMarks_of_isDigit digit]
    · obtain ⟨kind, mark⟩ := kind_nextTail? leads
      simp [kind, mark]
  | fraction =>
    rw [Place.next?] at leads
    split at leads
    · cases leads
      simp [Place.kind]
    · exact iff_of_true (kind_nextMark? leads).1 (.inl rfl)
  | point | mark | markSign | exponent =>
    simp only [Place.next?] at leads
    split_ifs at leads <;> cases leads <;> simp [Place.kind]

/-- The kind tells whether there was a mark of a float. -/
theorem kind_run? {p q : Place} {cs : List Char} (leads : p.run? cs = some q) :
    q.kind = .float ↔ p.kind = .float ∨ ∃ c ∈ cs, c ∈ floatMarks := by
  induction cs generalizing p with
  | nil =>
    cases leads
    simp
  | cons c r ih =>
    obtain ⟨p', first, rest⟩ := Option.bind_eq_some_iff.mp leads
    rw [ih rest, kind_next? first]
    simp [or_assoc]

theorem kind_eq (p : Place) : p.kind = if p.kind = .float then .float else .integer := by
  cases p <;> rfl

/-! ## Cutting a number off -/

/-- A piece was cut off up to a place where no number can go on, and the verdict says whether a number may end
there. Digits were taken as far as they go. -/
structure StopsAt (cut : NumberPiece) (q : Place) : Prop where
  leads : Place.start.run? cut.lexeme = some q
  stops : ∀ c ∈ cut.rest.head?, q.next? c = none
  clear : ∀ c ∈ cut.rest.head?, c.isDigit = false
  complete : q.isComplete = true → cut.verdict = .ok q.kind
  incomplete : q.isComplete = false → ∃ fault, cut.verdict = .error fault

theorem head?_afterDigits (cs : List Char) : ∀ c ∈ (afterDigits cs).head?, c.isDigit = false := by
  intro c head
  have first := List.head?_dropWhile_not Char.isDigit cs
  rw [afterDigits] at head
  rw [head] at first
  simpa using first

theorem head?_of_digits_eq_nil {cs : List Char} (none : digits cs = []) :
    ∀ c ∈ cs.head?, c.isDigit = false := by
  have whole := digits_append_afterDigits cs
  rw [none, List.nil_append] at whole
  exact whole ▸ head?_afterDigits cs

/-- Where a digit is missing the piece ends, and it is no number. -/
theorem stopsAt_of_digits_eq_nil {lexeme rest : List Char} {q : Place} {fault : NumberFault}
    (leads : Place.start.run? lexeme = some q) (missing : q.isComplete = false)
    (stops : ∀ c ∈ rest.head?, c.isDigit = false → q.next? c = none) (none : digits rest = []) :
    StopsAt ⟨lexeme, rest, .error fault⟩ q where
  leads := leads
  clear := head?_of_digits_eq_nil none
  stops c head := stops c head (head?_of_digits_eq_nil none c head)
  complete complete := by
    rw [missing] at complete
    cases complete
  incomplete _ := ⟨fault, rfl⟩

/-- Digits lead to the place where they are taken one after the other. -/
theorem run?_digits {p q : Place} (enter : ∀ c, c.isDigit = true → p.next? c = some q)
    (stay : ∀ c, c.isDigit = true → q.next? c = some q) {ds : List Char} (nonempty : ds ≠ [])
    (all : ∀ c ∈ ds, c.isDigit = true) : p.run? ds = some q := by
  induction ds generalizing p with
  | nil => exact absurd rfl nonempty
  | cons c r ih =>
    obtain ⟨digit, others⟩ := List.forall_mem_cons.mp all
    rw [Place.run?, enter c digit, Option.bind_some]
    cases r with
    | nil => rfl
    | cons d r => exact ih stay (List.cons_ne_nil d r) others

/-- Behind the mark of an exponent and its sign, only a digit goes on. -/
theorem exists_signed (r : List Char) :
    ∃ q, Place.mark.run? (exponentSign r).1 = some q ∧ q.isComplete = false ∧
      (∀ c, c.isDigit = true → q.next? c = some .exponent) ∧
      ∀ c ∈ (exponentSign r).2.head?, c.isDigit = false → q.next? c = none := by
  have signed : Place.markSign.isComplete = false ∧
      (∀ c, c.isDigit = true → Place.markSign.next? c = some .exponent) ∧
      ∀ c, c.isDigit = false → Place.markSign.next? c = none :=
    ⟨rfl, fun c digit => by simp [Place.next?, digit], fun c stops => by simp [Place.next?, stops]⟩
  unfold exponentSign
  split
  · exact ⟨.markSign, rfl, signed.1, signed.2.1, fun c _ => signed.2.2 c⟩
  · exact ⟨.markSign, rfl, signed.1, signed.2.1, fun c _ => signed.2.2 c⟩
  · next plus minus =>
    refine ⟨.mark, rfl, rfl, ?_, ?_⟩
    · intro c digit
      have bare : ¬ (c = '+' ∨ c = '-') := by
        rintro (rfl | rfl) <;> cases digit
      simp [Place.next?, digit, bare]
    · intro c head stops
      obtain ⟨r', rfl⟩ := List.head?_eq_some_iff.mp head
      have bare : ¬ (c = '+' ∨ c = '-') := by
        rintro (rfl | rfl)
        · exact plus r' rfl
        · exact minus r' rfl
      simp [Place.next?, stops, bare]

/-- An exponent is cut off behind a number that is complete without one, or nothing is. -/
theorem exponentPart_stopsAt {lexeme rest : List Char} {p : Place}
    (leads : Place.start.run? lexeme = some p) (complete : p.isComplete = true)
    (next : ∀ c ∈ rest.head?, p.next? c = Place.nextMark? c)
    (clear : ∀ c ∈ rest.head?, c.isDigit = false) :
    ∃ q, StopsAt (exponentPart lexeme rest p.kind) q := by
  have ends (stops : ∀ c ∈ rest.head?, p.next? c = none) :
      StopsAt ⟨lexeme, rest, .ok p.kind⟩ p :=
    ⟨leads, stops, clear, fun _ => rfl, fun missing => absurd complete (by simp [missing])⟩
  cases rest with
  | nil => exact ⟨p, ends (by simp)⟩
  | cons c r =>
    rw [exponentPart]
    split
    · next mark =>
      have marked : p.next? c = some .mark := (next c rfl).trans (if_pos mark)
      obtain ⟨q, signed, missing, digit, stops⟩ := exists_signed r
      have walked : Place.start.run? (lexeme ++ c :: (exponentSign r).1) = some q := by
        rw [run?_append, leads, Option.bind_some, Place.run?, marked]
        exact signed
      simp only []
      split
      · next empty =>
        rw [empty, List.append_nil]
        exact ⟨q, stopsAt_of_digits_eq_nil walked missing stops empty⟩
      · next nonempty =>
        have clear := head?_afterDigits (exponentSign r).2
        have run := run?_digits digit (fun d digit => if_pos digit) nonempty isDigit_of_mem_digits
        refine ⟨.exponent, ?_, fun d head => ?_, clear, fun _ => rfl,
          fun missing => Bool.noConfusion missing⟩
        · rw [run?_append, walked]
          exact run
        · simp [Place.next?, clear d head]
    · next other =>
      refine ⟨p, ends fun d head => ?_⟩
      cases head
      exact (next c rfl).trans (if_neg other)

/-- A fraction and an exponent are cut off behind an integer part, each of them if it is there. -/
theorem fractionPart_stopsAt {lexeme rest : List Char} {p : Place}
    (leads : Place.start.run? lexeme = some p) (whole : p = .zero ∨ p = .whole)
    (clear : ∀ c ∈ rest.head?, c.isDigit = false) :
    ∃ q, StopsAt (fractionPart lexeme rest) q := by
  have complete : p.isComplete = true ∧ p.kind = .integer := by
    rcases whole with rfl | rfl <;> exact ⟨rfl, rfl⟩
  have next : ∀ c ∈ rest.head?, p.next? c = Place.nextTail? c := by
    intro c head
    rcases whole with rfl | rfl
    · rfl
    · simp [Place.next?, clear c head]
  unfold fractionPart
  split
  · next r =>
    have pointed : Place.start.run? (lexeme ++ ['.']) = some .point := by
      rw [run?_append, leads, Option.bind_some, Place.run?, next '.' rfl]
      rfl
    split
    · next empty =>
      have stops (c : Char) (_ : c ∈ r.head?) (stop : c.isDigit = false) : Place.point.next? c = none := by
        simp [Place.next?, stop]
      exact ⟨.point, stopsAt_of_digits_eq_nil pointed rfl stops empty⟩
    · next nonempty =>
      have clear := head?_afterDigits r
      have run := run?_digits (p := .point) (q := .fraction) (fun c digit => if_pos digit)
        (fun c digit => if_pos digit) nonempty isDigit_of_mem_digits
      refine exponentPart_stopsAt (p := .fraction) ?_ rfl (fun c head => ?_) clear
      · rw [List.append_cons, run?_append, pointed]
        exact run
      · simp [Place.next?, clear c head]
  · next point =>
    rw [← complete.2]
    refine exponentPart_stopsAt leads complete.1 (fun c head => ?_) clear
    rw [next c head, Place.nextTail?, if_neg]
    rintro rfl
    obtain ⟨r, rfl⟩ := List.head?_eq_some_iff.mp head
    exact point r rfl

/-- A digit behind an integer part that is a lone zero; it is taken along into the error. -/
def LeadingZero (sign cs : List Char) (cut : NumberPiece) : Prop :=
  ∃ d r, cs = '0' :: d :: r ∧ d.isDigit = true ∧ cut = ⟨sign ++ ['0', d], r, .error .leadingZero⟩

/-- Behind a sign or none a number is cut off as far as it goes, unless it has a leading zero. -/
theorem integerPart_stopsAt {sign cs : List Char} {p : Place}
    (leads : Place.start.run? sign = some p) (missing : p.isComplete = false)
    (enter : ∀ c, c.isDigit = true → p.next? c = Place.nextWhole? c)
    (stops : ∀ c ∈ cs.head?, c.isDigit = false → p.next? c = none) :
    LeadingZero sign cs (integerPart sign cs) ∨ ∃ q, StopsAt (integerPart sign cs) q := by
  by_cases zero : cs.head? = some '0'
  · obtain ⟨r, rfl⟩ := List.head?_eq_some_iff.mp zero
    by_cases clear : ∀ c ∈ r.head?, c.isDigit = false
    · rw [integerPart_zero sign clear]
      refine .inr (fractionPart_stopsAt ?_ (.inl rfl) clear)
      rw [run?_append, leads, Option.bind_some, Place.run?, enter '0' rfl]
      rfl
    · push Not at clear
      obtain ⟨d, head, digit⟩ := clear
      obtain ⟨r', rfl⟩ := List.head?_eq_some_iff.mp head
      rw [Bool.ne_false_iff] at digit
      exact .inl ⟨d, r', rfl, digit, by rw [integerPart, if_pos digit]⟩
  · rw [integerPart_digits sign zero]
    split
    · next empty => exact .inr ⟨p, stopsAt_of_digits_eq_nil leads missing stops empty⟩
    · next nonempty =>
      refine .inr (fractionPart_stopsAt (p := .whole) ?_ (.inr rfl) (head?_afterDigits cs))
      rw [run?_append, leads, Option.bind_some]
      obtain ⟨c, ds, cut⟩ := List.exists_cons_of_ne_nil nonempty
      have all : ∀ d ∈ c :: ds, d.isDigit = true := cut ▸ isDigit_of_mem_digits
      obtain ⟨digit, others⟩ := List.forall_mem_cons.mp all
      have nonzero : c ≠ '0' := by
        rintro rfl
        have whole := digits_append_afterDigits cs
        rw [cut] at whole
        exact zero (whole ▸ rfl)
      have first : p.next? c = some .whole := by
        rw [enter c digit, Place.nextWhole?, if_neg nonzero, if_pos digit]
      rw [cut, Place.run?, first, Option.bind_some]
      cases ds with
      | nil => rfl
      | cons d ds =>
        have stay : ∀ c, c.isDigit = true → Place.whole.next? c = some .whole :=
          fun c digit => if_pos digit
        exact run?_digits stay stay (List.cons_ne_nil d ds) others

/-- From a digit or a minus on. -/
theorem cutNumber_stopsAt {c : Char} {r : List Char} (first : c.isDigit = true ∨ c = '-') :
    (∃ sign cs, sign ∈ 1 + minus ∧ c :: r = sign ++ cs ∧ LeadingZero sign cs (cutNumber (c :: r))) ∨
      ∃ q, StopsAt (cutNumber (c :: r)) q := by
  unfold cutNumber
  split
  · next r' same =>
    rw [same]
    have stops : ∀ d ∈ r'.head?, d.isDigit = false → Place.sign.next? d = none := by
      intro d _ other
      have nonzero : d ≠ '0' := by
        rintro rfl
        cases other
      simp [Place.next?, Place.nextWhole?, other, nonzero]
    refine (integerPart_stopsAt (p := .sign) rfl rfl (fun d _ => rfl) stops).imp_left ?_
    exact fun zero => ⟨['-'], r', .inr rfl, rfl, zero⟩
  · next unsigned =>
    have digit : c.isDigit = true := first.resolve_right fun minus => unsigned r (by rw [minus])
    have enter : ∀ d, d.isDigit = true → Place.start.next? d = Place.nextWhole? d := by
      intro d digit
      refine if_neg ?_
      rintro rfl
      cases digit
    have stops : ∀ d ∈ (c :: r).head?, d.isDigit = false → Place.start.next? d = none := by
      intro d head other
      cases head
      rw [digit] at other
      cases other
    refine (integerPart_stopsAt (p := .start) rfl rfl enter stops).imp_left ?_
    exact fun zero => ⟨[], c :: r, nil_mem_optional, rfl, zero⟩

/-! ## Scanning -/

/-- A number is scanned as it is cut off, whatever the verdict. -/
theorem scan_eq_number {c : Cursor} {ch : Char} {r : List Char} (text : c.rest = ch :: r)
    (first : ch.isDigit = true ∨ ch = '-') : scan c = c.number := by
  have number : (ch.isDigit || ch = '-') = true := by simpa using first
  have space : isSpace ch = false := isSpace_eq_false (p := fun c => c.isDigit || c = '-') rfl number
  have alpha : ch.isAlpha = false := by
    rcases first with digit | rfl
    · exact isAlpha_of_isDigit digit
    · rfl
  simp only [scan, text, space, alpha, number, Bool.false_eq_true, if_false, if_true]

/-- What scanning gives for the longest piece that begins a number, with the rest of the text behind it. -/
structure Scanned (c : Cursor) (piece rest : List Char) : Prop where
  whole : c.rest = piece ++ rest
  longest : LongestStart words c.rest piece
  /-- A digit behind an integer part that is a lone zero is taken along into the error. -/
  leadingZero : ∀ d r, piece ∈ (1 + minus) * loneZero → rest = d :: r → d.isDigit = true →
    scan c = (.error (.malformedNumber (String.ofList (piece ++ [d])) .leadingZero c.offset),
      c.skip (piece ++ [d]) r)
  /-- Otherwise a number is a token; a mark of a float makes it one. -/
  token : ¬ (piece ∈ (1 + minus) * loneZero ∧ ∃ d ∈ rest.head?, d.isDigit = true) → piece ∈ words →
    scan c = (.ok ⟨if piece.any (· ∈ floatMarks) then .float else .integer,
      String.ofList piece, c.offset⟩, c.skip piece rest)
  /-- Otherwise the piece itself is the lexeme of the error. -/
  malformed : ¬ (piece ∈ (1 + minus) * loneZero ∧ ∃ d ∈ rest.head?, d.isDigit = true) →
    piece ∉ words → ∃ fault, scan c =
      (.error (.malformedNumber (String.ofList piece) fault c.offset), c.skip piece rest)

theorem run?_sign {sign : List Char} (optional : sign ∈ 1 + minus) :
    Place.start.run? (sign ++ ['0']) = some .zero := by
  rcases optional with rfl | rfl <;> rfl

theorem scanned_of_stopsAt {c : Cursor} {q : Place} (number : scan c = c.number)
    (h : StopsAt (cutNumber c.rest) q) :
    Scanned c (cutNumber c.rest).lexeme (cutNumber c.rest).rest := by
  have whole := (cutNumber_append c.rest).symm
  refine ⟨whole, ?_, ?_, ?_, ?_⟩
  · have longest := longestStart h.leads h.stops
    rwa [← whole] at longest
  · intro d r _ behind digit
    have clear := h.clear d (by rw [behind]; rfl)
    rw [digit] at clear
    cases clear
  · intro _ inside
    have complete := (mem_words_iff h.leads).mp inside
    have kind : q.kind = .float ↔ (cutNumber c.rest).lexeme.any (· ∈ floatMarks) = true := by
      rw [List.any_eq_true]
      simpa [Place.kind] using kind_run? h.leads
    have same : q.kind =
        if (cutNumber c.rest).lexeme.any (· ∈ floatMarks) then .float else .integer := by
      rw [kind_eq q]
      exact if_congr kind rfl rfl
    rw [number, Cursor.number, ← same]
    simp only [h.complete complete]
  · intro _ outside
    have missing := Bool.eq_false_iff.mpr ((mem_words_iff h.leads).not.mp outside)
    obtain ⟨fault, verdict⟩ := h.incomplete missing
    refine ⟨fault, ?_⟩
    rw [number, Cursor.number]
    simp only [verdict]

theorem scanned_of_leadingZero {c : Cursor} {sign cs : List Char} (number : scan c = c.number)
    (optional : sign ∈ 1 + minus) (text : c.rest = sign ++ cs)
    (h : LeadingZero sign cs (cutNumber c.rest)) :
    ∃ rest, Scanned c (sign ++ ['0']) rest := by
  obtain ⟨d, r, rfl, digit, cut⟩ := h
  have whole : c.rest = sign ++ ['0'] ++ d :: r := by rw [text]; simp
  have lone : sign ++ ['0'] ∈ (1 + minus) * loneZero :=
    Language.mem_mul.mpr ⟨sign, optional, ['0'], rfl, rfl⟩
  have again : ∃ d' ∈ (d :: r).head?, d'.isDigit = true := ⟨d, rfl, digit⟩
  refine ⟨d :: r, whole, ?_, ?_, fun other => absurd ⟨lone, again⟩ other,
    fun other => absurd ⟨lone, again⟩ other⟩
  · rw [whole]
    refine longestStart (run?_sign optional) fun c head => ?_
    cases head
    exact nextTail?_of_isDigit digit
  · intro d' r' _ behind _
    obtain ⟨rfl, rfl⟩ := List.cons.inj behind
    rw [number, Cursor.number]
    simp only [cut]
    simp

/-- From a digit or a minus the scanner takes the longest piece that begins a number. It is a token if it is a
number, and the lexeme of the error if it is not; behind a lone zero a digit is taken along into the error. -/
theorem scan_longest_number {c : Cursor} {ch : Char} {r : List Char} (text : c.rest = ch :: r)
    (first : ch.isDigit = true ∨ ch = '-') : ∃ piece rest, Scanned c piece rest := by
  have number := scan_eq_number text first
  have cut := cutNumber_stopsAt (r := r) first
  rw [← text] at cut
  rcases cut with ⟨sign, cs, optional, split, zero⟩ | ⟨q, stops⟩
  · exact ⟨_, scanned_of_leadingZero number optional split zero⟩
  · exact ⟨_, _, scanned_of_stopsAt number stops⟩

/-- A number that breaks off in its exponent. -/
theorem scan_longest_number_cut :
    let c : Cursor := ⟨['-', '0', '.', '5', 'e', '+', ']'], 3⟩
    (c.rest = '-' :: ['0', '.', '5', 'e', '+', ']'] ∧ (('-' : Char).isDigit = true ∨ '-' = '-')) ∧
      (∃ piece rest, Scanned c piece rest) ∧
      scan c = (.error (.malformedNumber "-0.5e+" .exponentDigit 3), ⟨[']'], 9⟩) :=
  ⟨⟨rfl, .inr rfl⟩, scan_longest_number rfl (.inr rfl), rfl⟩

end MockSchema.Token.Number
