import MockSchema.Proofs.ShortestDecimal
import MockSchema.Proofs.XmlForest
import MockSchema.Proofs.XmlGrammar

/-!
# XML texts as content

The text of a value consists of the tags and the texts of its forest, with blanks in front of the tags if it is
laid out on several lines (`Writes`). Its tags are therefore balanced, and every ampersand in it begins one of
five entities, whatever the value is. It is content of XML exactly if every name in the forest is a name of XML
and every string in the value consists of characters of XML (`write_content`): the writer takes any letters for
a name and leaves all characters of a string in place that it does not escape.
-/

namespace MockSchema

mutual

/-- The strings in a value, apart from the keys of objects. -/
def Value.strings : Value → List String
  | .string s => [s]
  | .array items => Value.itemStrings items
  | .object fields => Value.fieldStrings fields
  | .null | .bool _ | .int _ | .float _ => []

def Value.itemStrings : List Value → List String
  | [] => []
  | v :: rest => Value.strings v ++ Value.itemStrings rest

def Value.fieldStrings : List (String × Value) → List String
  | [] => []
  | (_, v) :: rest => Value.strings v ++ Value.fieldStrings rest

end

namespace Xml

open Grammar

/-! ## Names and texts of a forest -/

mutual

def Item.names : Item → List String
  | .text _ => []
  | .empty name => [name]
  | .element name content => name :: namesOf content

/-- The names of the elements in a forest. -/
def namesOf : List Item → List String
  | [] => []
  | item :: rest => item.names ++ namesOf rest

end

mutual

def Item.texts : Item → List String
  | .text s => [s]
  | .empty _ => []
  | .element _ content => textsOf content

/-- The texts in a forest. -/
def textsOf : List Item → List String
  | [] => []
  | item :: rest => item.texts ++ textsOf rest

end

/-- All characters of some texts belong to a class. -/
def Every (p : Char → Prop) (texts : List String) : Prop := ∀ t ∈ texts, ∀ c ∈ t.toList, p c

theorem every_append {p : Char → Prop} {a b : List String} :
    Every p (a ++ b) ↔ Every p a ∧ Every p b := List.forall_mem_append

theorem textsOf_append (a b : List Item) : textsOf (a ++ b) = textsOf a ++ textsOf b := by
  induction a with
  | nil => rfl
  | cons item a ih => rw [List.cons_append, textsOf, textsOf, ih, List.append_assoc]

/-! ## Texts of forests -/

variable {blank : Char → Prop}

/-- Lines one after the other with blanks in front of each. -/
inductive Laid (blank : Char → Prop) : List Line → List Char → Prop
  | nil : Laid blank [] []
  | cons {space line rest cs} (blanks : ∀ c ∈ space, blank c) (behind : Laid blank rest cs) :
      Laid blank (line :: rest) (space ++ (line.text ++ cs))

theorem laid_joinCompact (ls : List Line) : Laid blank ls (joinCompact ls) := by
  induction ls with
  | nil => exact .nil
  | cons line ls ih =>
    have none : ∀ c ∈ [], blank c := by simp
    exact .cons none ih

/-- What stands between lines that are not on one line. -/
def IsMargin (c : Char) : Prop := c = ' ' ∨ c = '\n'

theorem laid_joinPretty (ls : List Line) : Laid IsMargin ls (joinPretty ls) := by
  induction ls with
  | nil => exact .nil
  | cons line ls ih =>
    have indent : ∀ c ∈ List.replicate (4 * line.depth) ' ', IsMargin c := fun c member =>
      .inl (List.eq_of_mem_replicate member)
    cases ls with
    | nil =>
      have alone : Laid IsMargin [line]
          (List.replicate (4 * line.depth) ' ' ++ (line.text ++ [])) := .cons indent .nil
      rwa [List.append_nil] at alone
    | cons next ls =>
      rw [joinPretty, Line.indented, List.append_assoc]
      refine .cons indent ?_
      -- the line feed is a blank in front of the next line
      generalize joinPretty (next :: ls) = cs at ih
      cases ih with
      | cons blanks behind =>
        exact .cons (List.forall_mem_cons.mpr ⟨.inr rfl, blanks⟩) behind
      simp

theorem Laid.split {a b : List Line} {cs : List Char} (h : Laid blank (a ++ b) cs) :
    ∃ x y, cs = x ++ y ∧ Laid blank a x ∧ Laid blank b y := by
  induction a generalizing cs with
  | nil => exact ⟨[], cs, rfl, .nil, h⟩
  | cons line a ih =>
    cases h with
    | cons blanks behind =>
      obtain ⟨x, y, rfl, first, second⟩ := ih behind
      exact ⟨_, y, by simp, .cons blanks first, second⟩

/-- The texts of a forest: its tags in order with blanks in front of each and behind the last. The text of a scalar
stands between its tags without blanks. -/
inductive Writes (blank : Char → Prop) : List Item → List Char → Prop
  | nil {space} (blanks : ∀ c ∈ space, blank c) : Writes blank [] space
  | empty {space name items rest} (blanks : ∀ c ∈ space, blank c)
      (named : isName name.toList = true) (behind : Writes blank items rest) :
      Writes blank (.empty name :: items) (space ++ (emptyTag name.toList ++ rest))
  | leaf {space name items rest} (text : String) (blanks : ∀ c ∈ space, blank c)
      (named : isName name.toList = true) (behind : Writes blank items rest) :
      Writes blank (.element name (textItems text) :: items)
        (space ++ (openTag name.toList ++
          (text.toList.flatMap escape ++ (closeTag name.toList ++ rest))))
  | element {space name content inner items rest} (blanks : ∀ c ∈ space, blank c)
      (named : isName name.toList = true) (inside : Writes blank content inner)
      (behind : Writes blank items rest) :
      Writes blank (.element name content :: items)
        (space ++ (openTag name.toList ++ (inner ++ (closeTag name.toList ++ rest))))

theorem writes_nil : Writes blank [] [] := .nil (by simp)

/-- Blanks may stand in front of everything. -/
theorem Writes.behind_blanks {items : List Item} {space cs : List Char}
    (blanks : ∀ c ∈ space, blank c) (h : Writes blank items cs) : Writes blank items (space ++ cs) := by
  cases h with
  | nil others => exact .nil (List.forall_mem_append.mpr ⟨blanks, others⟩)
  | empty others named behind =>
    rw [← List.append_assoc]
    exact .empty (List.forall_mem_append.mpr ⟨blanks, others⟩) named behind
  | leaf text others named behind =>
    rw [← List.append_assoc]
    exact .leaf text (List.forall_mem_append.mpr ⟨blanks, others⟩) named behind
  | element others named inside behind =>
    rw [← List.append_assoc]
    exact .element (List.forall_mem_append.mpr ⟨blanks, others⟩) named inside behind

theorem Writes.append {a b : List Item} {x y : List Char} (first : Writes blank a x)
    (second : Writes blank b y) : Writes blank (a ++ b) (x ++ y) := by
  induction first with
  | nil blanks => exact second.behind_blanks blanks
  | empty blanks named behind ih =>
    simp only [List.append_assoc, List.cons_append]
    exact .empty blanks named ih
  | leaf text blanks named behind ih =>
    simp only [List.append_assoc, List.cons_append]
    exact .leaf text blanks named ih
  | element blanks named inside behind _ ih =>
    simp only [List.append_assoc, List.cons_append]
    exact .element blanks named inside ih

theorem writes_emptyTag {name : String} (named : isName name.toList = true) {depth : Nat}
    {cs : List Char} (laid : Laid blank [⟨depth, Xml.emptyTag name.toList⟩] cs) :
    Writes blank [.empty name] cs := by
  cases laid with
  | cons blanks behind =>
    cases behind
    exact .empty blanks named writes_nil

theorem writes_textLine {name : String} (named : isName name.toList = true) {depth : Nat} (v : Value)
    {cs : List Char} (laid : Laid blank [textLine name.toList depth v.display] cs) :
    Writes blank [.element name (textItems v.displayText)] cs := by
  cases laid with
  | cons blanks behind =>
    cases behind
    have leaf := Writes.leaf v.displayText blanks named writes_nil
    simpa [textLine, Value.displayText] using leaf

mutual

/-- The lines of a value are a text of its elements. By induction on the value, in step with the writer. -/
theorem element_writes (name : String) (depth : Nat) : ∀ {v : Value} {ls : List Line} {cs : List Char},
    element name depth v = .ok ls → Laid blank ls cs → Writes blank (elementsOf name v) cs
  | .array all, ls, cs, written, laid => by
    obtain ⟨-, -, written⟩ := (bind_eq_ok_iff ..).mp written
    exact elements_writes name depth written laid
  | .null, ls, cs, written, laid | .object [], ls, cs, written, laid => by
    obtain ⟨_, checked, rfl⟩ := (map_eq_ok_iff ..).mp written
    exact writes_emptyTag (checkName_eq_ok_iff.mp checked) laid
  | .object (field :: fields), ls, cs, written, laid => by
    obtain ⟨_, checked, behind⟩ := (bind_eq_ok_iff ..).mp written
    obtain ⟨inner, listed, rfl⟩ := (map_eq_ok_iff ..).mp behind
    have named := checkName_eq_ok_iff.mp checked
    rw [List.cons_append] at laid
    cases laid with
    | cons blanks laid =>
      obtain ⟨x, y, rfl, inside, laid⟩ := laid.split
      cases laid with
      | cons margin ended =>
        cases ended
        have content := (members_writes (depth + 1) listed inside).append (.nil margin)
        rw [List.append_nil] at content
        have whole := Writes.element blanks named content writes_nil
        simpa [elementsOf] using whole
  | .bool b, ls, cs, written, laid => by
    obtain ⟨_, checked, rfl⟩ := (map_eq_ok_iff ..).mp written
    exact writes_textLine (checkName_eq_ok_iff.mp checked) (.bool b) laid
  | .int i, ls, cs, written, laid => by
    obtain ⟨_, checked, rfl⟩ := (map_eq_ok_iff ..).mp written
    exact writes_textLine (checkName_eq_ok_iff.mp checked) (.int i) laid
  | .float x, ls, cs, written, laid => by
    obtain ⟨_, checked, rfl⟩ := (map_eq_ok_iff ..).mp written
    exact writes_textLine (checkName_eq_ok_iff.mp checked) (.float x) laid
  | .string s, ls, cs, written, laid => by
    obtain ⟨_, checked, rfl⟩ := (map_eq_ok_iff ..).mp written
    exact writes_textLine (checkName_eq_ok_iff.mp checked) (.string s) laid

theorem elements_writes (name : String) (depth : Nat) :
    ∀ {all : List Value} {ls : List Line} {cs : List Char},
      elements name depth all = .ok ls → Laid blank ls cs → Writes blank (elementsOfAll name all) cs
  | [], ls, cs, written, laid => by
    cases written
    cases laid
    exact writes_nil
  | v :: rest, ls, cs, written, laid => by
    obtain ⟨first, head, behind⟩ := (bind_eq_ok_iff ..).mp written
    obtain ⟨second, tail, rfl⟩ := (map_eq_ok_iff ..).mp behind
    obtain ⟨x, y, rfl, before, after⟩ := laid.split
    exact (element_writes name depth head before).append (elements_writes name depth tail after)

theorem members_writes (depth : Nat) :
    ∀ {fields : List (String × Value)} {ls : List Line} {cs : List Char},
      members depth fields = .ok ls → Laid blank ls cs → Writes blank (membersOf fields) cs
  | [], ls, cs, written, laid => by
    cases written
    cases laid
    exact writes_nil
  | (key, v) :: rest, ls, cs, written, laid => by
    obtain ⟨first, head, behind⟩ := (bind_eq_ok_iff ..).mp written
    obtain ⟨second, tail, rfl⟩ := (map_eq_ok_iff ..).mp behind
    obtain ⟨x, y, rfl, before, after⟩ := laid.split
    exact (element_writes key depth head before).append (members_writes depth tail after)

end

theorem lines_writes {v : Value} {ls : List Line} {cs : List Char} (written : lines v = .ok ls)
    (laid : Laid blank ls cs) : Writes blank (forest v) cs := by
  cases v with
  | object fields => exact members_writes 0 written laid
  | _ => exact element_writes rootName 0 written laid

/-! ## Escapes -/

/-- The names of the entities that stand for escaped characters. -/
def entityNames : List (List Char) :=
  [['a', 'm', 'p'], ['l', 't'], ['g', 't'], ['q', 'u', 'o', 't'], ['a', 'p', 'o', 's']]

/-- A mark is written as an entity, any other character as itself. -/
theorem escape_cases (c : Char) :
    (∃ entity ∈ entityNames, escape c = '&' :: (entity ++ [';'])) ∧ isChar c = true ∨
      escape c = [c] ∧ c ≠ '<' ∧ c ≠ '&' ∧ c ≠ '>' := by
  unfold escape
  split
  · next amp => exact .inl ⟨⟨['a', 'm', 'p'], by decide, rfl⟩, by rw [amp]; rfl⟩
  split
  · next less => exact .inl ⟨⟨['l', 't'], by decide, rfl⟩, by rw [less]; rfl⟩
  split
  · next greater => exact .inl ⟨⟨['g', 't'], by decide, rfl⟩, by rw [greater]; rfl⟩
  split
  · next quote => exact .inl ⟨⟨['q', 'u', 'o', 't'], by decide, rfl⟩, by rw [quote]; rfl⟩
  split
  · next apostrophe => exact .inl ⟨⟨['a', 'p', 'o', 's'], by decide, rfl⟩, by rw [apostrophe]; rfl⟩
  · next amp less greater _ _ => exact .inr ⟨rfl, less, amp, greater⟩

/-! ## Content -/

section Content

variable {G : Lexicon}

theorem mem_charData {text : List Char}
    (plain : ∀ c ∈ text, G.char c ∧ c ≠ '<' ∧ c ≠ '&' ∧ c ≠ '>') : text ∈ charData G := by
  refine ⟨fun c member => ?_, fun inside => ?_⟩
  · obtain ⟨char, less, amp, -⟩ := plain c member
    exact ⟨char, less, amp⟩
  · have member : '>' ∈ text := inside.subset (by simp)
    exact (plain '>' member).2.2.2 rfl

theorem mem_reference_of_entity {entity : List Char} (named : entity ∈ G.name) :
    '&' :: (entity ++ [';']) ∈ reference G := by
  refine (Language.mem_add ..).mpr (.inl ?_)
  exact Language.append_mem_mul (mem_word ['&']) (Language.append_mem_mul named (mem_word [';']))

/-- An escaped text is content. By induction on the text, behind the characters that were not escaped since the
last entity. -/
theorem content_escape (entities : ∀ entity ∈ entityNames, entity ∈ G.name) {run text : List Char}
    (plain : ∀ c ∈ run, G.char c ∧ c ≠ '<' ∧ c ≠ '&' ∧ c ≠ '>') (chars : ∀ c ∈ text, G.char c) :
    Content G (run ++ text.flatMap escape) := by
  induction text generalizing run with
  | nil =>
    rw [List.flatMap_nil, List.append_nil]
    exact .text (mem_charData plain)
  | cons c text ih =>
    obtain ⟨first, chars⟩ := List.forall_mem_cons.mp chars
    rw [List.flatMap_cons]
    rcases escape_cases c with ⟨⟨entity, listed, written⟩, -⟩ | ⟨written, other⟩
    · have reference := mem_reference_of_entity (entities entity listed)
      have behind : Content G ([] ++ text.flatMap escape) := ih (by simp) chars
      rw [written]
      exact .other (mem_charData plain) ((Language.mem_add ..).mpr (.inl reference)) behind
    · have longer : ∀ d ∈ run ++ [c], G.char d ∧ d ≠ '<' ∧ d ≠ '&' ∧ d ≠ '>' :=
        List.forall_mem_append.mpr ⟨plain, by simpa using ⟨first, other⟩⟩
      have behind := ih longer chars
      rw [List.append_assoc] at behind
      rwa [written]

theorem nil_mem_attributes : [] ∈ attributes G := by
  have blank : [] ∈ 1 + space := (Language.mem_add ..).mpr (.inl Language.nil_mem_one)
  exact Language.append_mem_mul (Language.nil_mem_kstar _) blank

theorem mem_startTag (name : List Char) : openTag name ∈ startTag G name := by
  have ends := Language.append_mem_mul (nil_mem_attributes (G := G)) (mem_word ['>'])
  exact mem_tag_iff.mpr ⟨_, ends, rfl⟩

theorem mem_emptyTag (name : List Char) : Xml.emptyTag name ∈ Grammar.emptyTag G name := by
  have ends := Language.append_mem_mul (nil_mem_attributes (G := G)) (mem_word ['/', '>'])
  exact mem_tag_iff.mpr ⟨_, ends, rfl⟩

theorem mem_endTag (name : List Char) : closeTag name ∈ endTag name := by
  have blank : [] ∈ 1 + space := (Language.mem_add ..).mpr (.inl Language.nil_mem_one)
  have ends := Language.append_mem_mul blank (mem_word ['>'])
  exact mem_tag_iff.mpr ⟨_, ends, rfl⟩

theorem textsOf_textItems (text : String) (p : Char → Prop) :
    Every p (textsOf (textItems text)) ↔ ∀ c ∈ text.toList, p c := by
  unfold textItems
  split
  · next none => simp [none, Every, textsOf]
  · simp [Every, textsOf, Item.texts]

/-- The text of a forest is content if its names are names and its texts consist of characters. By induction on the
text. -/
theorem Writes.content (entities : ∀ entity ∈ entityNames, entity ∈ G.name)
    (margin : ∀ c, blank c → G.char c ∧ Token.isSpace c = true) {items : List Item} {cs : List Char}
    (h : Writes blank items cs) (names : ∀ name ∈ namesOf items, name.toList ∈ G.name)
    (texts : Every G.char (textsOf items)) : Content G cs := by
  have data : ∀ space : List Char, (∀ c ∈ space, blank c) → space ∈ charData G := by
    intro space blanks
    refine mem_charData fun c member => ?_
    obtain ⟨char, space⟩ := margin c (blanks c member)
    refine ⟨char, ?_, ?_, ?_⟩ <;> rintro rfl <;> cases space
  induction h with
  | nil blanks => exact .text (data _ blanks)
  | empty blanks _ _ ih =>
    obtain ⟨first, names⟩ := List.forall_mem_cons.mp names
    exact .empty (data _ blanks) first (mem_emptyTag _) (ih names texts)
  | leaf text blanks _ _ ih =>
    obtain ⟨first, names⟩ := List.forall_mem_cons.mp names
    obtain ⟨-, names⟩ := List.forall_mem_append.mp names
    obtain ⟨chars, texts⟩ := every_append.mp texts
    have inside : Content G ([] ++ text.toList.flatMap escape) :=
      content_escape entities (by simp) ((textsOf_textItems text _).mp chars)
    exact .element (data _ blanks) first (mem_startTag _) inside (mem_endTag _) (ih names texts)
  | element blanks _ _ _ ihInside ih =>
    obtain ⟨first, names⟩ := List.forall_mem_cons.mp names
    obtain ⟨inner, names⟩ := List.forall_mem_append.mp names
    obtain ⟨chars, texts⟩ := every_append.mp texts
    exact .element (data _ blanks) first (mem_startTag _) (ihInside inner chars) (mem_endTag _)
      (ih names texts)

end Content

/-! ## Marks -/

/-- Characters of which none may stand in a name. -/
def nameEnds : List Char := [' ', '\t', '\r', '\n', '/', '>', '<', '&', '!', '?']

theorem IsNameChar.notMem {c : Char} (h : IsNameChar c) : c ∉ nameEnds := by
  have check : (nameEnds.all fun d => !(Unicode.isAlphanumeric d || d = '-' || d = '.' || d = '_')) =
      true := by
    simp only [Unicode.isAlphanumeric_eq]
    decide +kernel
  intro member
  have outside := List.all_eq_true.mp check c member
  simp only [Bool.not_eq_true', Bool.or_eq_false_iff, decide_eq_false_iff_not] at outside
  obtain ⟨⟨⟨alphanumeric, hyphen⟩, point⟩, underscore⟩ := outside
  rcases h with inside | inside | inside | inside
  · rw [alphanumeric] at inside
    cases inside
  · exact hyphen inside
  · exact point inside
  · exact underscore inside

theorem notMem_of_isName {name : List Char} (named : isName name = true) {d : Char}
    (mark : d ∈ nameEnds) : d ∉ name := by
  intro member
  exact ((isName_chars named).2 d member).notMem mark

section Marks

variable {mark : Char} {form : List Char → Prop}

/-- What stands behind a mark of a text stands behind it in a blank, a tag or the escape of a character. By
induction on the text. -/
theorem Writes.follows (keeps : ∀ rest more, form rest → form (rest ++ more))
    (margin : ∀ c, blank c → c ≠ mark)
    (tags : ∀ name, isName name = true → Follows mark form (openTag name) ∧
      Follows mark form (closeTag name) ∧ Follows mark form (Xml.emptyTag name))
    {items : List Item} {cs : List Char} (h : Writes blank items cs)
    (texts : Every (fun c => Follows mark form (escape c)) (textsOf items)) :
    Follows mark form cs := by
  have clean : ∀ space : List Char, (∀ c ∈ space, blank c) → Follows mark form space := fun _ blanks =>
    follows_of_notMem fun inside => margin mark (blanks mark inside) rfl
  have escaped : ∀ text : List Char, (∀ c ∈ text, Follows mark form (escape c)) →
      Follows mark form (text.flatMap escape) := by
    intro text each
    induction text with
    | nil => exact follows_of_notMem List.not_mem_nil
    | cons c text ih =>
      obtain ⟨first, others⟩ := List.forall_mem_cons.mp each
      exact first.append keeps (ih others)
  induction h with
  | nil blanks => exact clean _ blanks
  | empty blanks named _ ih =>
    obtain ⟨-, -, alone⟩ := tags _ named
    exact (clean _ blanks).append keeps (alone.append keeps (ih texts))
  | leaf text blanks named _ ih =>
    obtain ⟨opens, closes, -⟩ := tags _ named
    obtain ⟨each, texts⟩ := every_append.mp texts
    have inside := escaped text.toList ((textsOf_textItems text _).mp each)
    exact (clean _ blanks).append keeps (opens.append keeps
      (inside.append keeps (closes.append keeps (ih texts))))
  | element blanks named _ _ ihInside ih =>
    obtain ⟨opens, closes, -⟩ := tags _ named
    obtain ⟨inner, texts⟩ := every_append.mp texts
    exact (clean _ blanks).append keeps (opens.append keeps
      ((ihInside inner).append keeps (closes.append keeps (ih texts))))

/-- A mark that is in no name and makes up no tag is in no tag. -/
theorem follows_tags (listed : mark ∈ nameEnds) (other : mark ∉ tagMarks) :
    ∀ name, isName name = true → Follows mark form (openTag name) ∧
      Follows mark form (closeTag name) ∧ Follows mark form (Xml.emptyTag name) := by
  intro name named
  have absent := notMem_of_isName named listed
  simp only [tagMarks, List.mem_cons, List.not_mem_nil, or_false, not_or] at other
  obtain ⟨less, greater, slash⟩ := other
  refine ⟨follows_of_notMem ?_, follows_of_notMem ?_, follows_of_notMem ?_⟩
  · simp [openTag, absent, less, greater]
  · simp [closeTag, absent, less, greater, slash]
  · simp [Xml.emptyTag, absent, less, greater, slash]

end Marks

/-- One of the entities. -/
def IsEntity (rest : List Char) : Prop := ∃ entity ∈ entityNames, ∃ r, rest = entity ++ ';' :: r

/-- Every ampersand in a text begins an entity. -/
theorem Writes.entities (margin : ∀ c, blank c → c ≠ '&') {items : List Item} {cs : List Char}
    (h : Writes blank items cs) : Follows '&' IsEntity cs := by
  have keeps : ∀ rest more, IsEntity rest → IsEntity (rest ++ more) := by
    rintro _ more ⟨entity, listed, r, rfl⟩
    exact ⟨entity, listed, r ++ more, by simp⟩
  refine h.follows keeps margin (follows_tags (by decide) (by decide)) fun _ _ c _ => ?_
  rcases escape_cases c with ⟨⟨entity, listed, written⟩, -⟩ | ⟨written, -, amp, -⟩
  · have clean : '&' ∉ entity ++ [';'] := by
      simp only [entityNames, List.mem_cons, List.not_mem_nil, or_false] at listed
      rcases listed with rfl | rfl | rfl | rfl | rfl <;> decide
    rw [written]
    exact follows_cons (fun _ => ⟨entity, listed, [], rfl⟩) (follows_of_notMem clean)
  · rw [written]
    exact follows_of_notMem (by simpa using amp.symm)

/-- The names that the writer takes. -/
def writtenName : Language Char := {name | isName name = true}

/-- Every angle bracket in a text begins a tag. -/
theorem Writes.tags (margin : ∀ c, blank c → c ≠ '<') {items : List Item} {cs : List Char}
    (h : Writes blank items cs) : Follows '<' (InTag writtenName) cs := by
  have keeps : ∀ rest more, InTag writtenName rest → InTag writtenName (rest ++ more) :=
    fun _ more inTag => inTag.append more
  refine h.follows keeps margin (fun name named => ?_) fun _ _ c _ => ?_
  · have absent : '<' ∉ name := notMem_of_isName named (by decide)
    refine ⟨follows_cons (fun _ => ?_) ?_, follows_cons (fun _ => ?_) ?_, follows_cons (fun _ => ?_) ?_⟩
    · exact ⟨name, named, '>', by decide, [], .inl rfl⟩
    · exact follows_of_notMem (by simpa using absent)
    · exact ⟨name, named, '>', by decide, [], .inr rfl⟩
    · exact follows_of_notMem (by simpa using absent)
    · exact ⟨name, named, '/', by decide, ['>'], .inl rfl⟩
    · exact follows_of_notMem (by simpa using absent)
  · exact follows_of_notMem (not_mem_escape c)

/-! ## What occurs in a text -/

theorem infix_element (space opens inner closes rest : List Char) :
    opens <:+: space ++ (opens ++ (inner ++ (closes ++ rest))) ∧
      inner <:+: space ++ (opens ++ (inner ++ (closes ++ rest))) ∧
      rest <:+: space ++ (opens ++ (inner ++ (closes ++ rest))) :=
  ⟨⟨space, inner ++ (closes ++ rest), by simp⟩, ⟨space ++ opens, closes ++ rest, by simp⟩,
    ⟨space ++ (opens ++ (inner ++ closes)), [], by simp⟩⟩

/-- Every name in a forest is one that the writer takes, and stands in a tag of the text. By induction on the
text. -/
theorem Writes.tag_infix {items : List Item} {cs : List Char} (h : Writes blank items cs)
    {name : String} (listed : name ∈ namesOf items) :
    isName name.toList = true ∧ ∃ d ∈ delimiters, '<' :: (name.toList ++ [d]) <:+: cs := by
  have opening : '<' :: (name.toList ++ ['>']) <:+: openTag name.toList := List.infix_refl _
  have later : ∀ {rest cs : List Char}, rest <:+: cs →
      (isName name.toList = true ∧ ∃ d ∈ delimiters, '<' :: (name.toList ++ [d]) <:+: rest) →
        isName name.toList = true ∧ ∃ d ∈ delimiters, '<' :: (name.toList ++ [d]) <:+: cs := by
    rintro rest cs part ⟨named, d, ends, inside⟩
    exact ⟨named, d, ends, inside.trans part⟩
  induction h with
  | nil blanks => cases listed
  | @empty space _ _ rest blanks named _ ih =>
    rcases List.mem_cons.mp listed with rfl | others
    · exact ⟨named, '/', by decide, space, '>' :: rest, by simp [Xml.emptyTag]⟩
    · exact later (List.infix_append_of_infix_right (List.suffix_append _ rest).isInfix) (ih others)
  | @leaf space name' _ rest text blanks named _ ih =>
    obtain ⟨opens, -, behind⟩ := infix_element space (openTag name'.toList)
      (text.toList.flatMap escape) (closeTag name'.toList) rest
    rcases List.mem_cons.mp listed with rfl | others
    · exact ⟨named, '>', by decide, opening.trans opens⟩
    rcases List.mem_append.mp others with content | others
    · have none : namesOf (textItems text) = [] := by
        unfold textItems
        split <;> rfl
      rw [none] at content
      cases content
    · exact later behind (ih others)
  | @element space name' _ inner _ rest blanks named _ _ ihInside ih =>
    obtain ⟨opens, inside, behind⟩ := infix_element space (openTag name'.toList) inner
      (closeTag name'.toList) rest
    rcases List.mem_cons.mp listed with rfl | others
    · exact ⟨named, '>', by decide, opening.trans opens⟩
    rcases List.mem_append.mp others with content | others
    · exact later inside (ihInside content)
    · exact later behind (ih others)

/-- Every text in a forest stands escaped in the text of the forest. By induction on the text. -/
theorem Writes.text_infix {items : List Item} {cs : List Char} (h : Writes blank items cs) {t : String}
    (listed : t ∈ textsOf items) : t.toList.flatMap escape <:+: cs := by
  induction h with
  | nil blanks => cases listed
  | @empty _ _ _ rest _ _ _ ih =>
    exact List.infix_append_of_infix_right (List.infix_append_of_infix_right (ih listed))
  | @leaf space _ _ rest text blanks named _ ih =>
    obtain ⟨-, inside, behind⟩ := infix_element space _ (text.toList.flatMap escape) _ rest
    rcases List.mem_append.mp listed with content | others
    · have same : t = text := by
        unfold Item.texts textItems at content
        split at content
        · cases content
        · simpa [textsOf, Item.texts] using content
      exact same ▸ inside
    · exact (ih others).trans behind
  | @element space _ _ inner _ rest blanks named _ _ ihInside ih =>
    obtain ⟨-, inside, behind⟩ := infix_element space _ inner _ rest
    rcases List.mem_append.mp listed with content | others
    · exact (ihInside content).trans inside
    · exact (ih others).trans behind

/-! ## Texts and strings -/

/-- A character in the text of a number or another constant. -/
def IsScalarChar (c : Char) : Prop := c.isAlphanum = true ∨ c = '-' ∨ c = '.'

theorem isScalarChar_of_isDigit {c : Char} (digit : c.isDigit = true) : IsScalarChar c :=
  .inl (by simp [Char.isAlphanum, digit])

theorem isScalarChar_boolChars (b : Bool) : ∀ c ∈ Value.boolChars b, IsScalarChar c := by
  cases b <;> simp [Value.boolChars, IsScalarChar]

theorem isScalarChar_toDigits (n : Nat) : ∀ c ∈ Nat.toDigits 10 n, IsScalarChar c :=
  fun _ member => isScalarChar_of_isDigit (isDigit_of_mem_decimal member)

theorem isScalarChar_intChars (i : Int) : ∀ c ∈ Value.intChars i, IsScalarChar c := by
  unfold Value.intChars
  split
  · exact List.forall_mem_cons.mpr ⟨.inr (.inl rfl), isScalarChar_toDigits _⟩
  · exact isScalarChar_toDigits _

theorem isScalarChar_positional {cs : List Char} (all : ∀ c ∈ cs, c.isDigit = true) (order : Int) :
    (∀ c ∈ (Binary64.positional cs order).1, IsScalarChar c) ∧
      ∀ c ∈ (Binary64.positional cs order).2, IsScalarChar c := by
  have digits : ∀ c ∈ cs, IsScalarChar c := fun c member => isScalarChar_of_isDigit (all c member)
  have zeros : ∀ n, ∀ c ∈ List.replicate n '0', IsScalarChar c := by
    intro n c member
    rw [List.eq_of_mem_replicate member]
    exact isScalarChar_of_isDigit rfl
  unfold Binary64.positional
  split
  · exact ⟨by simpa using zeros 1, List.forall_mem_append.mpr ⟨zeros _, digits⟩⟩
  · refine ⟨List.forall_mem_append.mpr ⟨fun c member => ?_, zeros _⟩, fun c member => ?_⟩
    · exact digits c (List.mem_of_mem_take member)
    · exact digits c (List.mem_of_mem_drop member)

theorem isScalarChar_plain (x : Binary64) : ∀ c ∈ x.plain, IsScalarChar c := by
  have sign : ∀ c ∈ x.signChars, IsScalarChar c := by
    unfold Binary64.signChars
    split
    · simp [IsScalarChar]
    · simp
  unfold Binary64.plain
  split
  · simp [IsScalarChar]
  split
  · exact List.forall_mem_append.mpr ⟨sign, by simp [IsScalarChar]⟩
  split
  · exact List.forall_mem_append.mpr ⟨sign, by simp [IsScalarChar]⟩
  · next some =>
    obtain ⟨-, all, -⟩ := Binary64.shortestDigits_spec (Nat.pos_of_ne_zero some)
    obtain ⟨whole, fraction⟩ := isScalarChar_positional all x.shortestDigits.2
    refine List.forall_mem_append.mpr ⟨List.forall_mem_append.mpr ⟨sign, whole⟩, ?_⟩
    split
    · simp
    · exact List.forall_mem_cons.mpr ⟨.inr (.inr rfl), fraction⟩

/-- A class with everything that constants are written with. -/
def HasScalarChars (p : Char → Prop) : Prop := ∀ c, IsScalarChar c → p c

theorem every_constant {p : Char → Prop} (constants : HasScalarChars p) (name : String) {v : Value}
    (chars : ∀ c ∈ v.display, IsScalarChar c) :
    Every p (textsOf [.element name (textItems v.displayText)]) := by
  have each : ∀ c ∈ v.displayText.toList, p c := by
    rw [Value.displayText, String.toList_ofList]
    exact fun c member => constants c (chars c member)
  exact every_append.mpr ⟨(textsOf_textItems _ p).mpr each, by simp [textsOf, Every]⟩

mutual

/-- The texts of the elements of a value are its strings and constants. By induction on the value. -/
theorem every_elementsOf {p : Char → Prop} (constants : HasScalarChars p) (name : String) :
    ∀ v : Value, Every p (textsOf (elementsOf name v)) ↔ Every p v.strings
  | .array all => every_elementsOfAll constants name all
  | .null | .object [] => by simp [elementsOf, textsOf, Item.texts, Value.strings, Value.fieldStrings]
  | .object (field :: fields) => by
    simp only [elementsOf, textsOf, Item.texts, List.append_nil]
    exact every_membersOf constants (field :: fields)
  | .bool b => by
    have each := every_constant constants name (v := .bool b) (isScalarChar_boolChars b)
    exact iff_of_true each (by simp [Value.strings, Every])
  | .int i => by
    have each := every_constant constants name (v := .int i) (isScalarChar_intChars i.toInt)
    exact iff_of_true each (by simp [Value.strings, Every])
  | .float x => by
    have each := every_constant constants name (v := .float x) (isScalarChar_plain x)
    exact iff_of_true each (by simp [Value.strings, Every])
  | .string s => by
    have same : Value.displayText (.string s) = s := String.ofList_toList
    rw [elementsOf.eq_def]
    simp only [textsOf, Item.texts, List.append_nil, same]
    rw [textsOf_textItems]
    simp [Value.strings, Every]

theorem every_elementsOfAll {p : Char → Prop} (constants : HasScalarChars p) (name : String) :
    ∀ all : List Value, Every p (textsOf (elementsOfAll name all)) ↔ Every p (Value.itemStrings all)
  | [] => Iff.rfl
  | v :: rest => by
    rw [elementsOfAll, textsOf_append, every_append, every_elementsOf constants name v,
      every_elementsOfAll constants name rest, Value.itemStrings, every_append]

theorem every_membersOf {p : Char → Prop} (constants : HasScalarChars p) :
    ∀ fields : List (String × Value),
      Every p (textsOf (membersOf fields)) ↔ Every p (Value.fieldStrings fields)
  | [] => Iff.rfl
  | (key, v) :: rest => by
    rw [membersOf, textsOf_append, every_append, every_elementsOf constants key v,
      every_membersOf constants rest, Value.fieldStrings, every_append]

end

theorem every_forest {p : Char → Prop} (constants : HasScalarChars p) (v : Value) :
    Every p (textsOf (forest v)) ↔ Every p v.strings := by
  cases v with
  | object fields => exact every_membersOf constants fields
  | _ => exact every_elementsOf constants rootName _

/-! ## Whole texts -/

/-- A text on one line is a text of the forest without blanks. -/
theorem write_writes_compact {v : Value} {text : String} (written : write false v = .ok text) :
    Writes blank (forest v) text.toList := by
  obtain ⟨cs, joined, rfl⟩ := (map_eq_ok_iff ..).mp written
  obtain ⟨ls, listed, rfl⟩ := (map_eq_ok_iff ..).mp joined
  rw [String.toList_ofList]
  exact lines_writes listed (laid_joinCompact ls)

theorem write_writes {v : Value} {pretty : Bool} {text : String} (written : write pretty v = .ok text) :
    Writes IsMargin (forest v) text.toList := by
  cases pretty with
  | false => exact write_writes_compact written
  | true =>
    obtain ⟨cs, joined, rfl⟩ := (map_eq_ok_iff ..).mp written
    obtain ⟨ls, listed, rfl⟩ := (map_eq_ok_iff ..).mp joined
    rw [String.toList_ofList]
    exact lines_writes listed (laid_joinPretty ls)

/-- The names that the writer takes, and any characters. -/
def Grammar.Lexicon.written : Lexicon := ⟨writtenName, fun _ => True⟩

theorem isName_entity : ∀ entity ∈ entityNames, entity ∈ writtenName := by
  have check : ∀ entity ∈ entityNames, isName entity = true := by
    simp only [entityNames, List.forall_mem_cons, isName, Unicode.isAlphabetic_eq,
      Unicode.isAlphanumeric_eq]
    decide +kernel
  exact check

theorem mem_name_entity : ∀ entity ∈ entityNames, entity ∈ Grammar.name := by
  intro entity listed
  simp only [entityNames, List.mem_cons, List.not_mem_nil, or_false] at listed
  rcases listed with rfl | rfl | rfl | rfl | rfl <;> exact mem_name_iff.mpr (by decide)

theorem isChar_of_isScalarChar : HasScalarChars (isChar · = true) := by
  have ascii : ∀ {c : Char}, c.isAlphanum = true → 0x20 ≤ c.toNat ∧ c.toNat ≤ 0x7E := by
    intro c h
    change ((decide ('A'.val ≤ c.val ∧ c.val ≤ 'Z'.val) ||
      decide ('a'.val ≤ c.val) && decide (c.val ≤ 'z'.val)) ||
      decide ('0'.val ≤ c.val) && decide (c.val ≤ '9'.val)) = true at h
    simp only [Bool.or_eq_true, Bool.and_eq_true, decide_eq_true_eq, UInt32.le_iff_toNat_le,
      Char.toNat_val, Char.reduceToNat] at h
    omega
  rintro c (alphanumeric | rfl | rfl)
  · obtain ⟨low, high⟩ := ascii alphanumeric
    simp only [isChar, within, List.any_cons, List.any_nil, Bool.or_eq_true, Bool.and_eq_true,
      decide_eq_true_eq]
    omega
  · rfl
  · rfl

/-- Names that end at delimiters are the same if they stand at the same place. -/
theorem eq_of_append_delimiter {a b r s : List Char} {c d : Char} (first : ∀ e ∈ a, e ∉ delimiters)
    (second : ∀ e ∈ b, e ∉ delimiters) (hc : c ∈ delimiters) (hd : d ∈ delimiters)
    (same : a ++ c :: r = b ++ d :: s) : a = b := by
  rcases List.append_eq_append_iff.mp same with ⟨more, rfl, split⟩ | ⟨more, rfl, split⟩
  · cases more with
    | nil => rw [List.append_nil]
    | cons e more =>
      obtain ⟨rfl, -⟩ := List.cons.inj split
      exact absurd hc (second c (by simp))
  · cases more with
    | nil => rw [List.append_nil]
    | cons e more =>
      obtain ⟨rfl, -⟩ := List.cons.inj split
      exact absurd hd (first d (by simp))

theorem isMargin_isSpace {c : Char} (h : IsMargin c) : Token.isSpace c = true := by
  rcases h with rfl | rfl <;> rfl

theorem IsMargin.ne {c d : Char} (h : IsMargin c) (other : Token.isSpace d = false) : c ≠ d := by
  rintro rfl
  rw [isMargin_isSpace h] at other
  cases other

/-- No tag of the writer begins as a comment, a section or an instruction. -/
theorem isBare_of_inTag {rest : List Char} (h : InTag writtenName rest) : IsBare rest := by
  obtain ⟨name, named, c, -, r, rfl | rfl⟩ := h
  · obtain ⟨nonempty, -⟩ := isName_chars named
    obtain ⟨d, more, rfl⟩ := List.exists_cons_of_ne_nil nonempty
    have inside : ∀ mark ∈ nameEnds, d ≠ mark := by
      rintro mark listed rfl
      exact notMem_of_isName named listed List.mem_cons_self
    exact ⟨by simpa using inside '!' (by decide), by simpa using inside '?' (by decide)⟩
  · exact ⟨by simp, by simp⟩

theorem notMem_delimiters_of_isNamePart {c : Char} (part : isNamePart c = true) : c ∉ delimiters := by
  have check : (delimiters.all fun d => !isNamePart d) = true := by decide
  intro member
  have outside := List.all_eq_true.mp check c member
  rw [part] at outside
  cases outside

/-- A text that is content of XML has only names of XML in its tags. -/
theorem Writes.names_of_content {items : List Item} {cs : List Char} (h : Writes IsMargin items cs)
    (content : Content .xml cs) : ∀ name ∈ namesOf items, name.toList ∈ Grammar.name := by
  intro name listed
  obtain ⟨named, d, ends, before, after, split⟩ := h.tag_infix listed
  have plain : Over (· ≠ '<') Grammar.name := by
    refine over_name.mono ?_
    rintro _ part rfl
    cases part
  have tags := h.tags fun c margin => margin.ne rfl
  have bare : Follows '<' IsBare cs := fun front rest at' => isBare_of_inTag (tags front rest at')
  have inTag : InTag Grammar.name (name.toList ++ d :: after) :=
    content.follows plain bare before _ (by simp [← split])
  have clean : ∀ c ∈ name.toList, c ∉ delimiters := by
    intro c member delimiter
    have mark : c ∈ nameEnds := by
      have subset : delimiters ⊆ nameEnds := by simp [delimiters, nameEnds]
      exact subset delimiter
    exact notMem_of_isName named mark member
  obtain ⟨name', xml, c, ends', r, same | same⟩ := inTag
  · have parts : ∀ e ∈ name', e ∉ delimiters := fun e member =>
      notMem_delimiters_of_isNamePart (over_name name' xml e member)
    exact eq_of_append_delimiter clean parts ends ends' same ▸ xml
  · obtain ⟨nonempty, -⟩ := isName_chars named
    obtain ⟨e, more, first⟩ := List.exists_cons_of_ne_nil nonempty
    rw [first] at same clean
    obtain ⟨rfl, -⟩ := List.cons.inj same
    exact absurd (by decide) (clean '/' List.mem_cons_self)

/-- A text that is content of XML has only characters of XML in its texts. -/
theorem Writes.texts_of_content {items : List Item} {cs : List Char} (h : Writes IsMargin items cs)
    (content : Content .xml cs) : Every (isChar · = true) (textsOf items) := by
  intro t listed c member
  rcases escape_cases c with ⟨-, char⟩ | ⟨same, -⟩
  · exact char
  · have inside : c ∈ t.toList.flatMap escape :=
      List.mem_flatMap.mpr ⟨c, member, by rw [same]; exact List.mem_singleton_self c⟩
    exact content.chars c ((h.text_infix listed).subset inside)

/-- The tags in the text of a value are balanced, and every ampersand in it begins one of the five entities. The
text is content of XML exactly if the names of its elements are names of XML and the strings in the value
consist of characters of XML. -/
theorem write_content {v : Value} {pretty : Bool} {text : String}
    (written : write pretty v = .ok text) :
    Content .written text.toList ∧ Follows '&' IsEntity text.toList ∧
      (Content .xml text.toList ↔
        (∀ name ∈ namesOf (forest v), name.toList ∈ Grammar.name) ∧
          ∀ s ∈ v.strings, ∀ c ∈ s.toList, isChar c = true) := by
  have writes := write_writes written
  refine ⟨?_, writes.entities fun c margin => margin.ne rfl, fun content => ?_, fun both => ?_⟩
  · have taken : ∀ name ∈ namesOf (forest v), name.toList ∈ writtenName := fun name listed =>
      (writes.tag_infix listed).1
    refine writes.content (G := .written) isName_entity ?_ taken ?_
    · exact fun c margin => ⟨trivial, isMargin_isSpace margin⟩
    · exact fun _ _ _ _ => trivial
  · exact ⟨writes.names_of_content content,
      (every_forest isChar_of_isScalarChar v).mp (writes.texts_of_content content)⟩
  · obtain ⟨names, strings⟩ := both
    have texts := (every_forest isChar_of_isScalarChar v).mpr strings
    refine writes.content (G := .xml) mem_name_entity ?_ names texts
    exact fun c margin => ⟨isChar_of_isSpace (isMargin_isSpace margin), isMargin_isSpace margin⟩

/-- An ordinal indicator counts as a letter, but no name of XML begins with it. -/
theorem write_content_ordinal :
    write false (.object [("ª", .int 1)]) = .ok "<ª>1</ª>" ∧
      Content .written "<ª>1</ª>".toList ∧ ¬ Content .xml "<ª>1</ª>".toList := by
  have named : isName "ª".toList = true := by
    simp only [isName, String.toList, Unicode.isAlphabetic_eq]
    decide +kernel
  have written : write false (.object [("ª", .int 1)]) = .ok "<ª>1</ª>" := by
    simp only [write, chars, lines, members, element, checkName, named]
    rfl
  obtain ⟨balanced, -, xml⟩ := write_content written
  refine ⟨written, balanced, fun content => ?_⟩
  obtain ⟨names, -⟩ := xml.mp content
  obtain ⟨start, -⟩ := mem_name_iff.mp (names "ª" (by decide))
  cases start

end Xml

end MockSchema
