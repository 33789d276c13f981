import Mathlib.Computability.Language
import MockSchema.Token.Scan

/-!
# The grammar of XML content

The productions of XML 1.0 (fifth edition) from characters up to the content of an element, each as a language.
They are taken over a lexicon, which says what names and characters are; `Lexicon.xml` is the one of XML itself.
Content nests because an element is its two tags, of one name, with content between them.

A text is often looked at mark by mark: what stands behind every angle bracket or every ampersand of it
(`Follows`). Where no comment, no section and no instruction can begin, every angle bracket of a content begins a
tag, and the name in the tag is one (`Content.follows`).
-/

namespace MockSchema.Xml.Grammar

open Computability

/-! ## Languages -/

/-- The words of one character of a class. -/
def one (p : Char → Prop) : Language Char := {w | ∃ c, w = [c] ∧ p c}

def word (cs : List Char) : Language Char := {cs}

/-- The words over a class without a mark in them. -/
def without (mark : List Char) (p : Char → Prop) : Language Char :=
  {w | (∀ c ∈ w, p c) ∧ ¬ mark <:+: w}

/-- All characters of all words of a language belong to a class. -/
def Over (p : Char → Prop) (l : Language Char) : Prop := ∀ w ∈ l, ∀ c ∈ w, p c

/-- All words of a language begin with a character of a class. -/
def Heads (p : Char → Prop) (l : Language Char) : Prop := ∀ w ∈ l, ∃ c r, w = c :: r ∧ p c

section

variable {p q : Char → Prop} {l m : Language Char} {cs : List Char}

theorem mem_word (cs : List Char) : cs ∈ word cs := Set.mem_singleton cs

theorem Over.mono (h : Over p l) (le : ∀ c, p c → q c) : Over q l :=
  fun w member c inside => le c (h w member c inside)

theorem over_one (le : ∀ c, p c → q c) : Over q (one p) := by
  rintro _ ⟨c, rfl, belongs⟩ d inside
  rw [List.mem_singleton.mp inside]
  exact le c belongs

theorem over_word (h : ∀ c ∈ cs, p c) : Over p (word cs) := by
  rintro w member
  rw [Set.mem_singleton_iff.mp member]
  exact h

theorem over_word_of_all {q : Char → Bool} (h : cs.all q = true) :
    Over (q · = true) (word cs) :=
  over_word (List.all_eq_true.mp h)

theorem over_without (mark : List Char) (le : ∀ c, p c → q c) : Over q (without mark p) :=
  fun _ member c inside => le c (member.1 c inside)

theorem over_nil : Over p 1 := by
  intro w member c inside
  rw [(Language.mem_one w).mp member] at inside
  cases inside

theorem Over.add (first : Over p l) (second : Over p m) : Over p (l + m) := by
  intro w member
  rcases (Language.mem_add l m w).mp member with left | right
  · exact first w left
  · exact second w right

theorem Over.mul (first : Over p l) (second : Over p m) : Over p (l * m) := by
  intro w member
  obtain ⟨a, left, b, right, rfl⟩ := Language.mem_mul.mp member
  exact List.forall_mem_append.mpr ⟨first a left, second b right⟩

theorem Over.star (h : Over p l) : Over p l∗ := by
  intro w member c inside
  obtain ⟨parts, rfl, every⟩ := Language.mem_kstar.mp member
  obtain ⟨part, listed, inside⟩ := List.mem_flatten.mp inside
  exact h part (every part listed) c inside

theorem mem_star_one_iff {w : List Char} : w ∈ (one p)∗ ↔ ∀ c ∈ w, p c := by
  constructor
  · have each : Over p (one p)∗ := (over_one fun _ belongs => belongs).star
    exact each w
  · intro every
    have whole : w = (w.map fun c => [c]).flatten := (List.flatMap_singleton' w).symm
    refine Language.mem_kstar.mpr ⟨_, whole, fun part listed => ?_⟩
    obtain ⟨c, member, rfl⟩ := List.mem_map.mp listed
    exact ⟨c, rfl, every c member⟩

theorem heads_word {c : Char} (belongs : p c) : Heads p (word (c :: cs)) := by
  intro w member
  exact ⟨c, cs, Set.mem_singleton_iff.mp member, belongs⟩

theorem heads_one (le : ∀ c, p c → q c) : Heads q (one p) := by
  rintro _ ⟨c, rfl, belongs⟩
  exact ⟨c, [], rfl, le c belongs⟩

theorem Heads.mul (h : Heads p l) : Heads p (l * m) := by
  intro w member
  obtain ⟨a, left, b, -, rfl⟩ := Language.mem_mul.mp member
  obtain ⟨c, r, rfl, belongs⟩ := h a left
  exact ⟨c, r ++ b, rfl, belongs⟩

theorem Heads.add (first : Heads p l) (second : Heads p m) : Heads p (l + m) := by
  intro w member
  rcases (Language.mem_add l m w).mp member with left | right
  · exact first w left
  · exact second w right

/-- What may be left out changes nothing about how words begin, if it begins as what is behind it. -/
theorem Heads.opt (first : Heads p l) (second : Heads p m) : Heads p ((1 + l) * m) := by
  rw [add_mul, one_mul]
  exact second.add first.mul

theorem Heads.star (first : Heads p l) (second : Heads p m) : Heads p (l∗ * m) := by
  rw [← Language.one_add_self_mul_kstar_eq_kstar]
  exact first.mul.opt second

end

/-! ## Characters and names -/

/-- The characters between two code points of one of some pairs. -/
def within (ranges : List (Nat × Nat)) (c : Char) : Bool :=
  ranges.any fun (first, last) => first ≤ c.toNat && c.toNat ≤ last

theorem within_mono {ranges wider : List (Nat × Nat)}
    (le : ∀ r ∈ ranges, ∃ r' ∈ wider, r'.1 ≤ r.1 ∧ r.2 ≤ r'.2) {c : Char}
    (h : within ranges c = true) : within wider c = true := by
  simp only [within, List.any_eq_true, Bool.and_eq_true, decide_eq_true_eq] at h ⊢
  obtain ⟨r, listed, first, last⟩ := h
  obtain ⟨r', listed', below, above⟩ := le r listed
  exact ⟨r', listed', by omega, by omega⟩

def isChar : Char → Bool :=
  within [(0x9, 0x9), (0xA, 0xA), (0xD, 0xD), (0x20, 0xD7FF), (0xE000, 0xFFFD), (0x10000, 0x10FFFF)]

def nameStart : List (Nat × Nat) :=
  [(0x3A, 0x3A), (0x41, 0x5A), (0x5F, 0x5F), (0x61, 0x7A), (0xC0, 0xD6), (0xD8, 0xF6), (0xF8, 0x2FF),
    (0x370, 0x37D), (0x37F, 0x1FFF), (0x200C, 0x200D), (0x2070, 0x218F), (0x2C00, 0x2FEF),
    (0x3001, 0xD7FF), (0xF900, 0xFDCF), (0xFDF0, 0xFFFD), (0x10000, 0xEFFFF)]

def isNameStart : Char → Bool := within nameStart

def isNamePart : Char → Bool :=
  within (nameStart ++
    [(0x2D, 0x2E), (0x30, 0x39), (0xB7, 0xB7), (0x300, 0x36F), (0x203F, 0x2040)])

def isDigit : Char → Bool := within [(0x30, 0x39)]

def isHexDigit : Char → Bool := within [(0x30, 0x39), (0x41, 0x46), (0x61, 0x66)]

def name : Language Char := one (isNameStart ·) * (one (isNamePart ·))∗

theorem mem_name_iff {c : Char} {r : List Char} :
    c :: r ∈ name ↔ isNameStart c = true ∧ r.all isNamePart = true := by
  rw [List.all_eq_true, ← mem_star_one_iff]
  constructor
  · rintro ⟨_, ⟨d, rfl, first⟩, rest, others, same⟩
    obtain ⟨rfl, rfl⟩ := List.cons.inj same
    exact ⟨first, others⟩
  · rintro ⟨first, others⟩
    have start : [c] ∈ one (isNameStart ·) := ⟨c, rfl, first⟩
    exact Language.append_mem_mul start others

/-- What names and characters are. -/
structure Lexicon where
  name : Language Char
  char : Char → Prop

/-- The names and characters of XML. -/
def Lexicon.xml : Lexicon := ⟨Grammar.name, (isChar ·)⟩

/-! ## Productions -/

/-- One blank or more. -/
def space : Language Char := one (Token.isSpace ·) * (one (Token.isSpace ·))∗

variable (G : Lexicon)

/-- Text of an element: no mark, and no end of a section. -/
def charData : Language Char :=
  without [']', ']', '>'] fun c => G.char c ∧ c ≠ '<' ∧ c ≠ '&'

/-- An entity by its name, or a character by its number. -/
def reference : Language Char :=
  word ['&'] * (G.name * word [';']) +
    (word ['&', '#'] * (one (isDigit ·) * (one (isDigit ·))∗ * word [';']) +
      word ['&', '#', 'x'] * (one (isHexDigit ·) * (one (isHexDigit ·))∗ * word [';']))

/-- Text between quotation marks of one kind. -/
def quoted (mark : Char) : Language Char :=
  word [mark] * ((one (fun c => G.char c ∧ c ≠ '<' ∧ c ≠ '&' ∧ c ≠ mark) + reference G)∗ * word [mark])

def oneAttribute : Language Char :=
  G.name * ((1 + space) * (word ['='] * ((1 + space) * (quoted G '"' + quoted G '\''))))

def attributes : Language Char := (space * oneAttribute G)∗ * (1 + space)

/-- A name between brackets, with something behind it. -/
def tag (first last : List Char) (inside : Language Char) (name : List Char) : Language Char :=
  word first * (word name * (inside * word last))

theorem mem_tag_iff {first last : List Char} {inside : Language Char} {name w : List Char} :
    w ∈ tag first last inside name ↔ ∃ behind ∈ inside * word last, w = first ++ (name ++ behind) := by
  constructor
  · rintro ⟨_, rfl, _, ⟨_, rfl, behind, member, rfl⟩, rfl⟩
    exact ⟨behind, member, rfl⟩
  · rintro ⟨behind, member, rfl⟩
    exact Language.append_mem_mul (mem_word first) (Language.append_mem_mul (mem_word name) member)

def startTag (name : List Char) : Language Char := tag ['<'] ['>'] (attributes G) name

def emptyTag (name : List Char) : Language Char := tag ['<'] ['/', '>'] (attributes G) name

def endTag (name : List Char) : Language Char := tag ['<', '/'] ['>'] (1 + space) name

/-- Text without two hyphens in a row, and with none at its end. -/
def comment : Language Char :=
  let plain := one fun c => G.char c ∧ c ≠ '-'
  word ['<', '!', '-', '-'] * ((plain + word ['-'] * plain)∗ * word ['-', '-', '>'])

/-- Any name but those that XML keeps for itself. -/
def target : Language Char := {w | w ∈ G.name ∧ w.map Char.toLower ≠ ['x', 'm', 'l']}

def instruction : Language Char :=
  word ['<', '?'] * (target G * ((1 + space * without ['?', '>'] G.char) * word ['?', '>']))

def characterSection : Language Char :=
  word ['<', '!', '[', 'C', 'D', 'A', 'T', 'A', '['] *
    (without [']', ']', '>'] G.char * word [']', ']', '>'])

/-- What may stand between texts apart from elements. -/
def other : Language Char := reference G + (characterSection G + (instruction G + comment G))

/-- Texts with elements, references, sections, instructions and comments between them. -/
inductive Content : List Char → Prop
  | text {text} (plain : text ∈ charData G) : Content text
  | other {text part rest} (plain : text ∈ charData G) (markup : part ∈ other G)
      (behind : Content rest) : Content (text ++ (part ++ rest))
  | empty {text name part rest} (plain : text ∈ charData G) (named : name ∈ G.name)
      (markup : part ∈ emptyTag G name) (behind : Content rest) : Content (text ++ (part ++ rest))
  | element {text name start inner stop rest} (plain : text ∈ charData G) (named : name ∈ G.name)
      (opens : start ∈ startTag G name) (inside : Content inner) (closes : stop ∈ endTag name)
      (behind : Content rest) : Content (text ++ (start ++ (inner ++ (stop ++ rest))))

/-! ## Characters of content -/

variable {G : Lexicon}

/-- A class of everything that tags and references consist of. -/
structure Admits (G : Lexicon) (p : Char → Prop) : Prop where
  name : Over p G.name
  char : ∀ c, G.char c → c ≠ '<' → p c
  space : ∀ c, Token.isSpace c = true → p c
  hexDigit : ∀ c, isHexDigit c = true → p c
  marks : ∀ c ∈ ['&', ';', '#', 'x', '=', '"', '\'', '>', '/'], p c

namespace Admits

variable {p : Char → Prop} (h : Admits G p)
include h

theorem over_space : Over p Grammar.space := (over_one h.space).mul (over_one h.space).star

theorem over_word {cs : List Char}
    (marks : ∀ c ∈ cs, c ∈ ['&', ';', '#', 'x', '=', '"', '\'', '>', '/']) : Over p (word cs) :=
  Grammar.over_word fun c member => h.marks c (marks c member)

theorem over_reference : Over p (reference G) := by
  have digit : Over p (one (isDigit ·)) := over_one fun c digit =>
    h.hexDigit c (within_mono (by decide) digit)
  have hex : Over p (one (isHexDigit ·)) := over_one h.hexDigit
  have entity : Over p (word ['&'] * (G.name * word [';'])) :=
    (h.over_word (by simp)).mul (h.name.mul (h.over_word (by simp)))
  have decimal : Over p (word ['&', '#'] * (one (isDigit ·) * (one (isDigit ·))∗ * word [';'])) :=
    (h.over_word (by simp)).mul ((digit.mul digit.star).mul (h.over_word (by simp)))
  have hexadecimal : Over p (word ['&', '#', 'x'] *
      (one (isHexDigit ·) * (one (isHexDigit ·))∗ * word [';'])) :=
    (h.over_word (by simp)).mul ((hex.mul hex.star).mul (h.over_word (by simp)))
  exact entity.add (decimal.add hexadecimal)

theorem over_quoted {mark : Char} (listed : mark = '"' ∨ mark = '\'') : Over p (quoted G mark) := by
  have ends : Over p (word [mark]) := by
    refine h.over_word ?_
    rcases listed with rfl | rfl <;> simp
  have plain : Over p (one fun c => G.char c ∧ c ≠ '<' ∧ c ≠ '&' ∧ c ≠ mark) :=
    over_one fun c plain => h.char c plain.1 plain.2.1
  exact ends.mul ((plain.add h.over_reference).star.mul ends)

theorem over_attributes : Over p (attributes G) := by
  have blank : Over p (1 + Grammar.space) := over_nil.add h.over_space
  have value : Over p (quoted G '"' + quoted G '\'') :=
    (h.over_quoted (.inl rfl)).add (h.over_quoted (.inr rfl))
  have each : Over p (oneAttribute G) :=
    h.name.mul (blank.mul ((h.over_word (by simp)).mul (blank.mul value)))
  exact (h.over_space.mul each).star.mul blank

end Admits

theorem isNamePart_of_isNameStart {c : Char} (h : isNameStart c = true) : isNamePart c = true :=
  within_mono (by decide) h

theorem isChar_of_isNamePart {c : Char} (h : isNamePart c = true) : isChar c = true :=
  within_mono (by decide) h

theorem isChar_of_isSpace {c : Char} (h : Token.isSpace c = true) : isChar c = true := by
  simp only [Token.isSpace, Bool.or_eq_true, decide_eq_true_eq] at h
  rcases h with ((rfl | rfl) | rfl) | rfl <;> rfl

theorem over_name : Over (isNamePart · = true) name := by
  have first : Over (isNamePart · = true) (one (isNameStart ·)) :=
    over_one fun _ => isNamePart_of_isNameStart
  exact first.mul (over_one fun _ part => part).star

theorem xml_admits : Admits .xml (isChar · = true) where
  name := over_name.mono fun _ => isChar_of_isNamePart
  char _ char _ := char
  space _ := isChar_of_isSpace
  hexDigit _ digit := within_mono (by decide) digit
  marks := List.all_eq_true.mp rfl

section

variable {p : Char → Prop} (h : Admits G p) (angle : p '<') {name : List Char} (named : name ∈ G.name)
include h angle named

theorem over_tag {first last : List Char} (brackets : ∀ c ∈ first ++ last, c ∈ ['<', '/', '>'])
    {inside : Language Char} (each : Over p inside) : Over p (tag first last inside name) := by
  have mark : ∀ c ∈ first ++ last, p c := by
    intro c member
    rcases List.mem_cons.mp (brackets c member) with rfl | other
    · exact angle
    · exact h.marks c (by simp at other ⊢; tauto)
  obtain ⟨opens, closes⟩ := List.forall_mem_append.mp mark
  exact (over_word opens).mul ((over_word (h.name name named)).mul (each.mul (over_word closes)))

theorem over_startTag : Over p (startTag G name) :=
  over_tag h angle named (by simp) h.over_attributes

theorem over_emptyTag : Over p (emptyTag G name) :=
  over_tag h angle named (by simp) h.over_attributes

theorem over_endTag : Over p (endTag name) :=
  over_tag h angle named (by simp) (over_nil.add h.over_space)

end

theorem over_other : Over (isChar · = true) (other .xml) := by
  have admits := xml_admits
  have plain : Over (isChar · = true) (one fun c => isChar c = true ∧ c ≠ '-') :=
    over_one fun _ plain => plain.1
  have hyphen : Over (isChar · = true) (word ['-']) := over_word_of_all rfl
  have target : Over (isChar · = true) (target .xml) := fun w member => admits.name w member.1
  have parts : Over (isChar · = true) (characterSection .xml) :=
    (over_word_of_all rfl).mul ((over_without _ fun _ char => char).mul (over_word_of_all rfl))
  have orders : Over (isChar · = true) (instruction .xml) :=
    (over_word_of_all rfl).mul (target.mul
      ((over_nil.add (admits.over_space.mul (over_without _ fun _ char => char))).mul
        (over_word_of_all rfl)))
  have remarks : Over (isChar · = true) (comment .xml) :=
    (over_word_of_all rfl).mul ((plain.add (hyphen.mul plain)).star.mul (over_word_of_all rfl))
  exact admits.over_reference.add (parts.add (orders.add remarks))

/-- Every character of content is a character of XML. By induction on the parts of the content. -/
theorem Content.chars {w : List Char} (h : Content .xml w) : ∀ c ∈ w, isChar c = true := by
  have data : Over (isChar · = true) (charData .xml) := over_without _ fun _ plain => plain.1
  induction h with
  | text plain => exact data _ plain
  | other plain markup behind ih =>
    simp only [List.forall_mem_append]
    exact ⟨data _ plain, over_other _ markup, ih⟩
  | empty plain named markup behind ih =>
    simp only [List.forall_mem_append]
    exact ⟨data _ plain, over_emptyTag xml_admits rfl named _ markup, ih⟩
  | element plain named opens inside closes behind ihInside ihBehind =>
    simp only [List.forall_mem_append]
    exact ⟨data _ plain, over_startTag xml_admits rfl named _ opens, ihInside,
      over_endTag xml_admits rfl named _ closes, ihBehind⟩

/-! ## What stands behind marks -/

/-- Behind every occurrence of a mark, a text goes on in a certain form. -/
def Follows (mark : Char) (form : List Char → Prop) (w : List Char) : Prop :=
  ∀ front rest, w = front ++ mark :: rest → form rest

section

variable {mark : Char} {form : List Char → Prop} {a b : List Char}

theorem follows_of_notMem (absent : mark ∉ a) : Follows mark form a := by
  rintro front rest rfl
  exact absurd (List.mem_append_right front List.mem_cons_self) absent

theorem follows_cons {c : Char} (first : c = mark → form a) (others : Follows mark form a) :
    Follows mark form (c :: a) := by
  intro front rest split
  cases front with
  | nil =>
    obtain ⟨rfl, rfl⟩ := List.cons.inj split
    exact first rfl
  | cons d front =>
    obtain ⟨rfl, rfl⟩ := List.cons.inj split
    exact others front rest rfl

/-- A form that a text keeps when it goes on holds behind the marks of two texts written together. -/
theorem Follows.append (keeps : ∀ rest more, form rest → form (rest ++ more))
    (first : Follows mark form a) (second : Follows mark form b) : Follows mark form (a ++ b) := by
  intro front rest split
  rcases List.append_eq_append_iff.mp split with ⟨between, -, inside⟩ | ⟨between, inside, behind⟩
  · exact second between rest inside
  · cases between with
    | nil => exact second [] rest behind.symm
    | cons c between =>
      obtain ⟨rfl, rfl⟩ := List.cons.inj behind
      exact keeps between b (first front between inside)

theorem Follows.left (lasts : ∀ rest more, form (rest ++ more) → form rest)
    (h : Follows mark form (a ++ b)) : Follows mark form a := by
  rintro front rest rfl
  exact lasts rest b (h front (rest ++ b) (by simp))

theorem Follows.right (h : Follows mark form (a ++ b)) : Follows mark form b := by
  rintro front rest rfl
  exact h (a ++ front) rest (by simp)

end

/-! ## Tags -/

/-- What may stand behind a name in a tag. -/
def delimiters : List Char := [' ', '\t', '\r', '\n', '/', '>']

/-- Inside a tag: a name up to what ends it, with a slash in front if the tag is an end tag. -/
def InTag (names : Language Char) (rest : List Char) : Prop :=
  ∃ name ∈ names, ∃ c ∈ delimiters, ∃ r, rest = name ++ c :: r ∨ rest = '/' :: (name ++ c :: r)

theorem InTag.append {names : Language Char} {rest : List Char} (more : List Char)
    (h : InTag names rest) : InTag names (rest ++ more) := by
  obtain ⟨name, named, c, ends, r, rfl | rfl⟩ := h
  · exact ⟨name, named, c, ends, r ++ more, .inl (by simp)⟩
  · exact ⟨name, named, c, ends, r ++ more, .inr (by simp)⟩

/-- No comment, no section and no instruction. -/
def IsBare (rest : List Char) : Prop := rest.head? ≠ some '!' ∧ rest.head? ≠ some '?'

theorem isBare_of_append {rest more : List Char} (h : IsBare (rest ++ more)) : IsBare rest := by
  cases rest with
  | nil => exact ⟨by simp, by simp⟩
  | cons c rest => exact h

theorem heads_space : Heads (· ∈ delimiters) space := by
  refine (heads_one fun c blank => ?_).mul
  simp only [Token.isSpace, Bool.or_eq_true, decide_eq_true_eq] at blank
  rcases blank with ((rfl | rfl) | rfl) | rfl <;> decide

theorem heads_close {last : List Char} (closes : last = ['>'] ∨ last = ['/', '>']) :
    Heads (· ∈ delimiters) (word last) := by
  rcases closes with rfl | rfl
  · exact heads_word (by decide)
  · exact heads_word (by decide)

theorem heads_endTag : Heads (· ∈ delimiters) ((1 + space) * word ['>']) :=
  heads_space.opt (heads_close (.inl rfl))

theorem heads_attributes {last : List Char} (closes : last = ['>'] ∨ last = ['/', '>']) :
    Heads (· ∈ delimiters) (attributes G * word last) := by
  rw [attributes, mul_assoc]
  exact (heads_space.mul).star (heads_space.opt (heads_close closes))

/-- A part that is no element and stands where nothing else than a tag begins is a reference. -/
theorem mem_reference {part : List Char} (h : part ∈ other G) (bare : Follows '<' IsBare part) :
    part ∈ reference G := by
  rcases (Language.mem_add ..).mp h with reference | other
  · exact reference
  · have begins : ∃ c r, part = '<' :: c :: r ∧ (c = '!' ∨ c = '?') := by
      rcases (Language.mem_add ..).mp other with parts | other
      · obtain ⟨_, rfl, r, -, rfl⟩ := Language.mem_mul.mp parts
        exact ⟨'!', _, rfl, .inl rfl⟩
      rcases (Language.mem_add ..).mp other with orders | remarks
      · obtain ⟨_, rfl, r, -, rfl⟩ := Language.mem_mul.mp orders
        exact ⟨'?', _, rfl, .inr rfl⟩
      · obtain ⟨_, rfl, r, -, rfl⟩ := Language.mem_mul.mp remarks
        exact ⟨'!', _, rfl, .inl rfl⟩
    obtain ⟨c, r, rfl, mark⟩ := begins
    have first := bare [] (c :: r) rfl
    rcases mark with rfl | rfl
    · exact absurd rfl first.1
    · exact absurd rfl first.2

section

variable (plain : Over (· ≠ '<') G.name)
include plain

/-- Angle brackets only begin tags, so nothing inside of them is one. -/
theorem admits_other : Admits G (· ≠ '<') where
  name := plain
  char _ _ other := other
  space _ blank := by
    rintro rfl
    cases blank
  hexDigit _ digit := by
    rintro rfl
    cases digit
  marks := by simp

theorem follows_tag {first last : List Char} (slash : first = ['<'] ∨ first = ['<', '/'])
    (closes : last = ['>'] ∨ last = ['/', '>']) {inside : Language Char}
    (each : Over (· ≠ '<') inside) (heads : Heads (· ∈ delimiters) (inside * word last))
    {name : List Char} (named : name ∈ G.name) {w : List Char} (h : w ∈ tag first last inside name) :
    Follows '<' (InTag G.name) w := by
  obtain ⟨behind, member, rfl⟩ := mem_tag_iff.mp h
  have over_last : Over (· ≠ '<') (word last) := by
    refine over_word ?_
    rcases closes with rfl | rfl <;> simp
  have clean : '<' ∉ name ++ behind := by
    intro inside
    rcases List.mem_append.mp inside with left | right
    · exact plain name named '<' left rfl
    · exact (each.mul over_last) behind member '<' right rfl
  obtain ⟨c, r, rfl, ends⟩ := heads behind member
  rcases slash with rfl | rfl
  · exact follows_cons (fun _ => ⟨name, named, c, ends, r, .inl rfl⟩) (follows_of_notMem clean)
  · refine follows_cons (fun _ => ⟨name, named, c, ends, r, .inr rfl⟩) ?_
    exact follows_cons (fun slash => by cases slash) (follows_of_notMem clean)

theorem follows_startTag {name : List Char} (named : name ∈ G.name) {w : List Char}
    (h : w ∈ startTag G name) : Follows '<' (InTag G.name) w :=
  follows_tag plain (.inl rfl) (.inl rfl) (admits_other plain).over_attributes
    (heads_attributes (.inl rfl)) named h

theorem follows_emptyTag {name : List Char} (named : name ∈ G.name) {w : List Char}
    (h : w ∈ emptyTag G name) : Follows '<' (InTag G.name) w :=
  follows_tag plain (.inl rfl) (.inr rfl) (admits_other plain).over_attributes
    (heads_attributes (.inr rfl)) named h

theorem follows_endTag {name : List Char} (named : name ∈ G.name) {w : List Char}
    (h : w ∈ endTag name) : Follows '<' (InTag G.name) w :=
  follows_tag plain (.inr rfl) (.inl rfl) (over_nil.add (admits_other plain).over_space)
    heads_endTag named h

/-- Where nothing else begins with an angle bracket, every angle bracket of content begins a tag. By induction on
the parts of the content. -/
theorem Content.follows {w : List Char} (h : Content G w) (bare : Follows '<' IsBare w) :
    Follows '<' (InTag G.name) w := by
  have data : ∀ text ∈ charData G, Follows '<' (InTag G.name) text := fun text plain =>
    follows_of_notMem fun inside => (plain.1 '<' inside).2.1 rfl
  have keeps : ∀ rest more, InTag G.name rest → InTag G.name (rest ++ more) :=
    fun _ more inTag => inTag.append more
  have lasts : ∀ rest more, IsBare (rest ++ more) → IsBare rest := fun _ _ => isBare_of_append
  induction h with
  | text plain => exact data _ plain
  | other text markup behind ih =>
    have reference := mem_reference markup (bare.right.left lasts)
    have clean : Follows '<' (InTag G.name) _ := follows_of_notMem fun inside =>
      (admits_other plain).over_reference _ reference '<' inside rfl
    exact (data _ text).append keeps (clean.append keeps (ih bare.right.right))
  | empty text named markup behind ih =>
    have tag := follows_emptyTag plain named markup
    exact (data _ text).append keeps (tag.append keeps (ih bare.right.right))
  | element text named opens inside closes behind ihInside ihBehind =>
    have start := follows_startTag plain named opens
    have stop := follows_endTag plain named closes
    have inner := ihInside (bare.right.right.left lasts)
    have rest := ihBehind bare.right.right.right.right
    exact (data _ text).append keeps (start.append keeps (inner.append keeps (stop.append keeps rest)))

end

end MockSchema.Xml.Grammar
