import MockSchema.Encode.Xml
import MockSchema.Proofs.CharMembership
import MockSchema.Proofs.Outcome

/-!
# Reading XML texts back

The forest of a value says which elements its XML text is to have, by recursion on the value and without a
word about tags or escapes. The reader knows nothing of values: it cuts a text into tags and the texts
between them (`pieces`), undoes the escapes, and puts the pieces together by matching every closing tag with
the last one that is still open (`build`). `read?_write` states that reading the text of a value on one line
gives the forest of the value, so nothing inside a text or a key can pass for markup.
-/

namespace MockSchema.Xml

/-- A part of the content of an element: a text, an element that closes itself, or an element with content
between its two tags. -/
inductive Item where
  | text (s : String)
  | empty (name : String)
  | element (name : String) (content : List Item)
  deriving Repr, Inhabited

/-! ## The forest of a value -/

/-- An empty text is no content. -/
def textItems (s : String) : List Item := if s = "" then [] else [.text s]

mutual

/-- The elements of one name for a value. A list gives those of its items in order, also of items that are
lists. -/
def elementsOf (name : String) : Value → List Item
  | .array items => elementsOfAll name items
  | .null => [.empty name]
  | .object [] => [.empty name]
  | .object fields => [.element name (membersOf fields)]
  | v => [.element name (textItems v.displayText)]

def elementsOfAll (name : String) : List Value → List Item
  | [] => []
  | v :: rest => elementsOf name v ++ elementsOfAll name rest

/-- The elements for the members of an object in order, each named by its key. -/
def membersOf : List (String × Value) → List Item
  | [] => []
  | (key, v) :: rest => elementsOf key v ++ membersOf rest

end

/-- The elements of a whole value. An object gives its members. -/
def forest : Value → List Item
  | .object fields => membersOf fields
  | v => elementsOf rootName v

/-! ## Reading -/

/-- The characters that a text between tags stands for. An ampersand begins one of five names. -/
def unescape : List Char → Option (List Char)
  | [] => some []
  | '&' :: 'a' :: 'm' :: 'p' :: ';' :: r => (unescape r).map ('&' :: ·)
  | '&' :: 'l' :: 't' :: ';' :: r => (unescape r).map ('<' :: ·)
  | '&' :: 'g' :: 't' :: ';' :: r => (unescape r).map ('>' :: ·)
  | '&' :: 'q' :: 'u' :: 'o' :: 't' :: ';' :: r => (unescape r).map ('"' :: ·)
  | '&' :: 'a' :: 'p' :: 'o' :: 's' :: ';' :: r => (unescape r).map ('\'' :: ·)
  | c :: r => if c = '&' then none else (unescape r).map (c :: ·)

/-- A tag, the text in front of a tag, or a tag without end. -/
inductive Piece where
  | opening (name : List Char)
  | closing (name : List Char)
  | selfClosing (name : List Char)
  | text (cs : List Char)
  | unclosed
  deriving DecidableEq, Repr

/-- The tag with the given characters between its angle brackets. -/
def tag : List Char → Piece
  | '/' :: name => .closing name
  | body => if body.getLast? = some '/' then .selfClosing body.dropLast else .opening body

/-- The piece for collected text; none for no text. -/
def textPieces (collected : List Char) : List Piece :=
  if collected = [] then [] else [.text collected]

mutual

/-- Cuts a text behind the collected characters, which belong to no tag. -/
def cutText (collected : List Char) : List Char → List Piece
  | [] => textPieces collected
  | c :: r => if c = '<' then textPieces collected ++ cutTag [] r else cutText (collected ++ [c]) r

/-- Cuts a text inside a tag that begins with the collected characters. -/
def cutTag (collected : List Char) : List Char → List Piece
  | [] => [.unclosed]
  | c :: r => if c = '>' then tag collected :: cutText [] r else cutTag (collected ++ [c]) r

end

def pieces (cs : List Char) : List Piece := cutText [] cs

/-- Puts pieces together behind the items that were read since the last open tag. An open tag is kept with
the items in front of it. -/
def build (opened : List (List Char × List Item)) (items : List Item) :
    List Piece → Option (List Item)
  | [] => if opened.isEmpty then some items else none
  | .text cs :: rest =>
    (unescape cs).bind fun s => build opened (items ++ [.text (String.ofList s)]) rest
  | .selfClosing name :: rest => build opened (items ++ [.empty (String.ofList name)]) rest
  | .opening name :: rest => build ((name, items) :: opened) [] rest
  | .closing name :: rest =>
    match opened with
    | (name', before) :: outer =>
      if name = name' then build outer (before ++ [.element (String.ofList name) items]) rest
      else none
    | [] => none
  | .unclosed :: _ => none

/-- The forest that a text denotes. -/
def read? (text : String) : Option (List Item) := build [] [] (pieces text.toList)

/-! ## Escapes -/

/-- Every character is escaped by itself, and its escape is undone before anything behind it is looked
at. -/
theorem unescape_escape_append (c : Char) (r : List Char) :
    unescape (escape c ++ r) = (unescape r).map (c :: ·) := by
  unfold escape
  split
  · next amp => subst amp; rfl
  split
  · next less => subst less; rfl
  split
  · next greater => subst greater; rfl
  split
  · next quote => subst quote; rfl
  split
  · next apostrophe => subst apostrophe; rfl
  · next amp _ _ _ _ =>
    rw [List.singleton_append, unescape.eq_def]
    split <;> simp_all

theorem unescape_flatMap_escape (cs : List Char) : unescape (cs.flatMap escape) = some cs := by
  induction cs with
  | nil => rfl
  | cons c cs ih => rw [List.flatMap_cons, unescape_escape_append, ih, Option.map_some]

/-- No escaped text has an angle bracket that could begin a tag. -/
theorem not_mem_escape (c : Char) : '<' ∉ escape c := by
  unfold escape
  split
  · decide
  split
  · decide
  split
  · decide
  split
  · decide
  split
  · decide
  · next less _ _ _ =>
    rw [List.mem_singleton]
    exact fun same => less same.symm

/-! ## Tags -/

/-- A character that may stand in a name. -/
def IsNameChar (c : Char) : Prop := Unicode.isAlphanumeric c = true ∨ c = '-' ∨ c = '.' ∨ c = '_'

/-- The characters that make up tags. -/
def tagMarks : List Char := ['<', '>', '/']

/-- No letter and no digit makes up tags. -/
theorem isAlphanumeric_ne {c d : Char} (h : Unicode.isAlphanumeric c = true) (mark : d ∈ tagMarks) :
    c ≠ d := by
  have check : (tagMarks.all fun d => !Unicode.isAlphanumeric d) = true := by
    simp only [Unicode.isAlphanumeric_eq]
    decide +kernel
  rintro rfl
  have absent := List.all_eq_true.mp check c mark
  rw [h] at absent
  cases absent

theorem IsNameChar.ne {c d : Char} (h : IsNameChar c) (mark : d ∈ tagMarks) : c ≠ d := by
  rcases h with alphanumeric | rfl | rfl | rfl
  · exact isAlphanumeric_ne alphanumeric mark
  · rintro rfl
    simp [tagMarks] at mark
  · rintro rfl
    simp [tagMarks] at mark
  · rintro rfl
    simp [tagMarks] at mark

/-- A name is not empty, and every character in it may stand in a name. -/
theorem isName_chars {name : List Char} (h : isName name = true) :
    name ≠ [] ∧ ∀ c ∈ name, IsNameChar c := by
  cases name with
  | nil => cases h
  | cons c r =>
    simp only [isName, Bool.and_eq_true, Bool.or_eq_true, decide_eq_true_eq, List.all_eq_true] at h
    obtain ⟨first, rest⟩ := h
    refine ⟨List.cons_ne_nil c r, List.forall_mem_cons.mpr ⟨?_, fun d member => ?_⟩⟩
    · rcases first with letter | underscore
      · exact .inl (by rw [Unicode.isAlphanumeric, letter, Bool.true_or])
      · exact .inr (.inr (.inr underscore))
    · rcases rest d member with ((alphanumeric | hyphen) | point) | underscore
      · exact .inl alphanumeric
      · exact .inr (.inl hyphen)
      · exact .inr (.inr (.inl point))
      · exact .inr (.inr (.inr underscore))

/-- Text up to the next tag is collected. -/
theorem cutText_append {cs : List Char} (plain : ∀ c ∈ cs, c ≠ '<') (collected r : List Char) :
    cutText collected (cs ++ r) = cutText (collected ++ cs) r := by
  induction cs generalizing collected with
  | nil => rw [List.nil_append, List.append_nil]
  | cons c cs ih =>
    obtain ⟨first, plain⟩ := List.forall_mem_cons.mp plain
    rw [List.cons_append, cutText, if_neg first, ih plain, List.append_assoc, List.singleton_append]

/-- A tag up to its end is collected. -/
theorem cutTag_append {cs : List Char} (plain : ∀ c ∈ cs, c ≠ '>') (collected r : List Char) :
    cutTag collected (cs ++ r) = cutTag (collected ++ cs) r := by
  induction cs generalizing collected with
  | nil => rw [List.nil_append, List.append_nil]
  | cons c cs ih =>
    obtain ⟨first, plain⟩ := List.forall_mem_cons.mp plain
    rw [List.cons_append, cutTag, if_neg first, ih plain, List.append_assoc, List.singleton_append]

/-- A tag without an angle bracket inside is cut off as one piece. -/
theorem pieces_tag {body : List Char} (plain : ∀ c ∈ body, c ≠ '>') (r : List Char) :
    pieces ('<' :: body ++ '>' :: r) = tag body :: pieces r := by
  rw [pieces, List.cons_append, cutText, if_pos rfl, cutTag_append plain, cutTag, if_pos rfl]
  rfl

section

variable {name : List Char} (named : isName name = true) (r : List Char)
include named

/-- A slash at neither end of a name tells opening tags from the others. -/
theorem tag_name : tag name = .opening name ∧ tag (name ++ ['/']) = .selfClosing name := by
  obtain ⟨nonempty, chars⟩ := isName_chars named
  cases name with
  | nil => exact absurd rfl nonempty
  | cons c cs =>
    have first : ∀ rest, c :: cs = '/' :: rest → False := by
      intro rest same
      exact (chars c List.mem_cons_self).ne (by decide) (List.cons.inj same).1
    have first' : ∀ rest, c :: cs ++ ['/'] = '/' :: rest → False := by
      intro rest same
      exact (chars c List.mem_cons_self).ne (by decide) (List.cons.inj same).1
    have last : (c :: cs).getLast? ≠ some '/' := by
      intro last
      exact (chars '/' (List.mem_of_getLast? last)).ne (by decide) rfl
    rw [tag.eq_2 _ first, if_neg last, tag.eq_2 _ first', List.getLast?_append,
      List.dropLast_concat]
    exact ⟨rfl, rfl⟩

theorem pieces_openTag : pieces (openTag name ++ r) = .opening name :: pieces r := by
  obtain ⟨-, chars⟩ := isName_chars named
  have cut := pieces_tag (fun c member => (chars c member).ne (by decide)) r
  rw [(tag_name named).1] at cut
  rw [← cut]
  simp [openTag]

theorem pieces_closeTag : pieces (closeTag name ++ r) = .closing name :: pieces r := by
  obtain ⟨-, chars⟩ := isName_chars named
  have plain : ∀ c ∈ '/' :: name, c ≠ '>' :=
    List.forall_mem_cons.mpr ⟨by decide, fun c member => (chars c member).ne (by decide)⟩
  have cut := pieces_tag plain r
  rw [tag] at cut
  rw [← cut]
  simp [closeTag]

theorem pieces_emptyTag : pieces (emptyTag name ++ r) = .selfClosing name :: pieces r := by
  obtain ⟨-, chars⟩ := isName_chars named
  have plain : ∀ c ∈ name ++ ['/'], c ≠ '>' := by
    intro c member
    rcases List.mem_append.mp member with inside | slash
    · exact (chars c inside).ne (by decide)
    · rw [List.mem_singleton.mp slash]
      decide
  have cut := pieces_tag plain r
  rw [(tag_name named).2] at cut
  rw [← cut]
  simp [emptyTag]

/-- Between its tags a text is cut off as one piece, or as none if it is empty. -/
theorem pieces_text (text : List Char) :
    pieces (text.flatMap escape ++ (closeTag name ++ r)) =
      textPieces (text.flatMap escape) ++ .closing name :: pieces r := by
  have plain : ∀ c ∈ text.flatMap escape, c ≠ '<' := by
    rintro c member rfl
    obtain ⟨d, -, inside⟩ := List.mem_flatMap.mp member
    exact not_mem_escape d inside
  rw [← pieces_closeTag named r, pieces, cutText_append plain, List.nil_append]
  simp [closeTag, pieces, cutText, textPieces]

/-- A scalar is read as its two tags with its text between them. -/
theorem build_textLine (opened : List (List Char × List Item)) (items : List Item) (depth : Nat)
    (text : List Char) :
    build opened items (pieces ((textLine name depth text).text ++ r)) =
      build opened (items ++ [.element (String.ofList name) (textItems (String.ofList text))])
        (pieces r) := by
  rw [textLine, List.append_assoc, List.append_assoc, pieces_openTag named, pieces_text named, build]
  by_cases none : text = []
  · simp [none, textPieces, textItems, build]
  -- a text that is not empty is escaped to one that is not empty, since the escapes can be undone
  · have written : text.flatMap escape ≠ [] := by
      intro empty
      have undone := unescape_flatMap_escape text
      rw [empty] at undone
      exact none (Option.some.inj undone).symm
    rw [textPieces, if_neg written, List.singleton_append, build, unescape_flatMap_escape]
    simp [textItems, none, build]

end

/-! ## Elements -/

theorem checkName_eq_ok_iff {name : String} {u : Unit} :
    checkName name = .ok u ↔ isName name.toList = true := by
  unfold checkName
  split
  · next named => simp [named]
  · next unnamed => simp [unnamed]

theorem joinCompact_append (first second : List Line) :
    joinCompact (first ++ second) = joinCompact first ++ joinCompact second :=
  List.flatMap_append

/-- Reading goes on behind the lines as if their elements stood where the lines stand. -/
def ReadsAs (lines : List Line) (elements : List Item) : Prop :=
  ∀ opened items r, build opened items (pieces (joinCompact lines ++ r)) =
    build opened (items ++ elements) (pieces r)

theorem readsAs_nil : ReadsAs [] [] := by
  intro opened items r
  rw [List.append_nil]
  rfl

theorem ReadsAs.append {lines lines' : List Line} {elements elements' : List Item}
    (first : ReadsAs lines elements) (second : ReadsAs lines' elements') :
    ReadsAs (lines ++ lines') (elements ++ elements') := by
  intro opened items r
  rw [joinCompact_append, List.append_assoc, first, second, List.append_assoc]

section

variable {name : String} (named : isName name.toList = true)
include named

theorem readsAs_emptyTag (depth : Nat) : ReadsAs [⟨depth, emptyTag name.toList⟩] [.empty name] := by
  intro opened items r
  rw [joinCompact, List.flatMap_singleton, pieces_emptyTag named, build, String.ofList_toList]

theorem readsAs_textLine (depth : Nat) (v : Value) :
    ReadsAs [textLine name.toList depth v.display] [.element name (textItems v.displayText)] := by
  intro opened items r
  rw [joinCompact, List.flatMap_singleton, build_textLine named, String.ofList_toList]
  rfl

/-- What stands between the tags of an element is its content. -/
theorem ReadsAs.element {inner : List Line} {content : List Item} (h : ReadsAs inner content)
    (depth : Nat) :
    ReadsAs (⟨depth, openTag name.toList⟩ :: inner ++ [⟨depth, closeTag name.toList⟩])
      [.element name content] := by
  intro opened items r
  have opens : joinCompact (⟨depth, openTag name.toList⟩ :: inner ++
      [⟨depth, closeTag name.toList⟩]) ++ r =
        openTag name.toList ++ (joinCompact inner ++ (closeTag name.toList ++ r)) := by
    simp [joinCompact]
  rw [opens, pieces_openTag named, build, h, pieces_closeTag named, build]
  simp

end

mutual

/-- The lines of a value are read as its elements. By induction on the value, in step with the writer. -/
theorem element_readsAs (name : String) (depth : Nat) : ∀ {v : Value} {lines : List Line},
    element name depth v = .ok lines → ReadsAs lines (elementsOf name v)
  | .array all, lines, written => by
    obtain ⟨-, -, written⟩ := (bind_eq_ok_iff ..).mp written
    exact elements_readsAs name depth written
  | .null, lines, written | .object [], lines, written => by
    obtain ⟨_, checked, rfl⟩ := (map_eq_ok_iff ..).mp written
    exact readsAs_emptyTag (checkName_eq_ok_iff.mp checked) depth
  | .object (field :: fields), lines, written => by
    obtain ⟨_, checked, behind⟩ := (bind_eq_ok_iff ..).mp written
    obtain ⟨inner, listed, rfl⟩ := (map_eq_ok_iff ..).mp behind
    exact (members_readsAs (depth + 1) listed).element (checkName_eq_ok_iff.mp checked) depth
  | .bool b, lines, written => by
    obtain ⟨_, checked, rfl⟩ := (map_eq_ok_iff ..).mp written
    exact readsAs_textLine (checkName_eq_ok_iff.mp checked) depth (.bool b)
  | .int i, lines, written => by
    obtain ⟨_, checked, rfl⟩ := (map_eq_ok_iff ..).mp written
    exact readsAs_textLine (checkName_eq_ok_iff.mp checked) depth (.int i)
  | .float x, lines, written => by
    obtain ⟨_, checked, rfl⟩ := (map_eq_ok_iff ..).mp written
    exact readsAs_textLine (checkName_eq_ok_iff.mp checked) depth (.float x)
  | .string s, lines, written => by
    obtain ⟨_, checked, rfl⟩ := (map_eq_ok_iff ..).mp written
    exact readsAs_textLine (checkName_eq_ok_iff.mp checked) depth (.string s)

theorem elements_readsAs (name : String) (depth : Nat) : ∀ {all : List Value} {lines : List Line},
    elements name depth all = .ok lines → ReadsAs lines (elementsOfAll name all)
  | [], lines, written => by
    cases written
    exact readsAs_nil
  | v :: rest, lines, written => by
    obtain ⟨first, head, behind⟩ := (bind_eq_ok_iff ..).mp written
    obtain ⟨second, tail, rfl⟩ := (map_eq_ok_iff ..).mp behind
    exact (element_readsAs name depth head).append (elements_readsAs name depth tail)

theorem members_readsAs (depth : Nat) : ∀ {fields : List (String × Value)} {lines : List Line},
    members depth fields = .ok lines → ReadsAs lines (membersOf fields)
  | [], lines, written => by
    cases written
    exact readsAs_nil
  | (key, v) :: rest, lines, written => by
    obtain ⟨first, head, behind⟩ := (bind_eq_ok_iff ..).mp written
    obtain ⟨second, tail, rfl⟩ := (map_eq_ok_iff ..).mp behind
    exact (element_readsAs key depth head).append (members_readsAs depth tail)

end

theorem lines_readsAs {v : Value} {ls : List Line} (written : lines v = .ok ls) :
    ReadsAs ls (forest v) := by
  cases v with
  | object fields => exact members_readsAs 0 written
  | _ => exact element_readsAs rootName 0 written

/-- Whatever is written as XML on one line is read back as the forest of the value. -/
theorem read?_write {v : Value} {text : String} (written : write false v = .ok text) :
    read? text = some (forest v) := by
  obtain ⟨cs, joined, rfl⟩ := (map_eq_ok_iff ..).mp written
  obtain ⟨ls, listed, rfl⟩ := (map_eq_ok_iff ..).mp joined
  have reads := lines_readsAs listed [] [] []
  rw [List.append_nil, List.nil_append] at reads
  rw [read?, String.toList_ofList]
  exact reads

/-- A text that looks like tags, a list in a list, and an object whose only member is an empty list. -/
theorem read?_write_markup :
    write false (.object [("_", .string "</_><_.a/>&"),
        ("__", .array [.null, .array [.int (-5), .string ""]]), ("_-", .object [("_", .array [])])]) =
      .ok "<_>&lt;/_&gt;&lt;_.a/&gt;&amp;</_><__/><__>-5</__><__></__><_-></_->" ∧
    read? "<_>&lt;/_&gt;&lt;_.a/&gt;&amp;</_><__/><__>-5</__><__></__><_-></_->" =
      some [.element "_" [.text "</_><_.a/>&"], .empty "__", .element "__" [.text "-5"],
        .element "__" [], .element "_-" []] := by
  have named : isName "_".toList = true ∧ isName "__".toList = true ∧
      isName "_-".toList = true := by
    simp [isName]
  obtain ⟨one, two, hyphen⟩ := named
  have written : write false (.object [("_", .string "</_><_.a/>&"),
      ("__", .array [.null, .array [.int (-5), .string ""]]), ("_-", .object [("_", .array [])])]) =
        .ok "<_>&lt;/_&gt;&lt;_.a/&gt;&amp;</_><__/><__>-5</__><__></__><_-></_->" := by
    simp only [write, chars, lines, members, element, elements, checkName, one, two, hyphen]
    rfl
  exact ⟨written, read?_write written⟩

end MockSchema.Xml
