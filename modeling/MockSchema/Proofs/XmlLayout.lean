import MockSchema.Proofs.DocumentLines

/-!
# XML texts on several lines

Laying an XML text out adds line feeds in front of tags and four spaces for each element around a tag, and nothing
else. How deep a tag is nested is counted in the text itself, by the tags in front of it (`openBehind`); the
depths that the writer gives to its lines are these, since a line that opens an element is followed by lines one
step deeper up to the line that closes it (`Climbs`). If no string in a value has a line feed, then the lines of
the text are the lines of the writer, and without its margins it is the text on one line (`write_laid_out`).
-/

namespace MockSchema.Xml

/-! ## Layouts -/

/-- A text without its line feeds and the spaces behind each of them. `margin` says whether a line feed stands in
front, with nothing but spaces behind it. -/
def dropMargins (margin : Bool) : List Char → List Char
  | [] => []
  | c :: r =>
    if c = '\n' then dropMargins true r
    else if margin && c = ' ' then dropMargins true r
    else c :: dropMargins false r

/-- How many elements are open behind some pieces, with so many open in front of them. -/
def openBehind (opened : Nat) : List Piece → Nat
  | [] => opened
  | .opening _ :: rest => openBehind (opened + 1) rest
  | .closing _ :: rest => openBehind (opened - 1) rest
  | .selfClosing _ :: rest | .text _ :: rest | .unclosed :: rest => openBehind opened rest

mutual

/-- The scalars with a text in a value of an element, each with the name of its own element. -/
def scalarsOf (name : String) : Value → List (String × List Char)
  | .array items => scalarsOfAll name items
  | .object fields => scalarsOfMembers fields
  | .null => []
  | v => [(name, v.display)]

def scalarsOfAll (name : String) : List Value → List (String × List Char)
  | [] => []
  | v :: rest => scalarsOf name v ++ scalarsOfAll name rest

def scalarsOfMembers : List (String × Value) → List (String × List Char)
  | [] => []
  | (key, v) :: rest => scalarsOf key v ++ scalarsOfMembers rest

end

/-- The scalars with a text in a whole value, in order. -/
def scalars : Value → List (String × List Char)
  | .object fields => scalarsOfMembers fields
  | v => scalarsOf rootName v

/-- An element with nothing but a text in it. -/
def scalarElement (name : String) (text : List Char) : List Char :=
  openTag name.toList ++ text.flatMap escape ++ closeTag name.toList

/-- The elements of some scalars, each by itself. -/
def scalarTexts (found : List (String × List Char)) : List (List Char) :=
  found.map fun (name, text) => scalarElement name text

/-- How a text on several lines differs from the one on one line. -/
structure LaidOut (v : Value) (compact pretty : List Char) : Prop where
  /-- Without its line feeds and the spaces behind them it is the text on one line. -/
  same : dropMargins false pretty = compact
  /-- It neither begins nor ends with a line feed. -/
  ends : pretty.head? ≠ some '\n' ∧ pretty.getLast? ≠ some '\n'
  /-- Every line begins with four spaces for each element around its tag and with the tag. In front of a closing
  tag, the element that it closes is open too. -/
  indented : ∀ before line after, Text.lines pretty = before ++ line :: after → ∃ depth tag,
    line = List.replicate (4 * depth) ' ' ++ '<' :: tag ∧
      openBehind 0 (pieces before.flatten) = if tag.head? = some '/' then depth + 1 else depth
  /-- Behind its indentation, every scalar is a line as it is on one line, with nothing between its tags and its
  text. -/
  scalars : (scalarTexts (Xml.scalars v)).Sublist
    ((Text.lines pretty).map fun line => line.dropWhile (· = ' '))

/-! ## Depths -/

theorem openBehind_textPieces (opened : Nat) (collected : List Char) (rest : List Piece) :
    openBehind opened (textPieces collected ++ rest) = openBehind opened rest := by
  unfold textPieces
  split <;> rfl

/-- Text in front of the first tag does not matter. -/
theorem openBehind_cutText (opened : Nat) (collected cs : List Char) :
    openBehind opened (cutText collected cs) = openBehind opened (pieces cs) := by
  unfold pieces
  induction cs generalizing collected with
  | nil =>
    have none := openBehind_textPieces opened collected []
    rwa [List.append_nil] at none
  | cons c r ih =>
    rw [cutText, cutText]
    split
    · rw [openBehind_textPieces, openBehind_textPieces]
    · rw [ih (collected ++ [c]), ih ([] ++ [c])]

theorem openBehind_indent (opened depth : Nat) (cs : List Char) :
    openBehind opened (pieces (List.replicate depth ' ' ++ cs)) = openBehind opened (pieces cs) := by
  have plain : ∀ c ∈ List.replicate depth ' ', c ≠ '<' := by
    intro c member
    rw [List.eq_of_mem_replicate member]
    decide
  rw [pieces, cutText_append plain, openBehind_cutText]

/-- What a line does to the number of open elements, from the one that stands in its depth. -/
inductive Line.Steps : Line → Nat → Nat → Prop
  | opens {name depth} (named : isName name = true) : Steps ⟨depth, openTag name⟩ depth (depth + 1)
  | closes {name depth} (named : isName name = true) : Steps ⟨depth, closeTag name⟩ (depth + 1) depth
  | empty {name depth} (named : isName name = true) : Steps ⟨depth, emptyTag name⟩ depth depth
  | scalar {name depth} (text : List Char) (named : isName name = true) :
      Steps (textLine name depth text) depth depth

/-- Lines that lead from one number of open elements to another. -/
inductive Climbs : Nat → List Line → Nat → Prop
  | nil {depth} : Climbs depth [] depth
  | cons {line rest a b c} (first : Line.Steps line a b) (behind : Climbs b rest c) :
      Climbs a (line :: rest) c

theorem Climbs.append {a b c : Nat} {ls ls' : List Line} (first : Climbs a ls b) (second : Climbs b ls' c) :
    Climbs a (ls ++ ls') c := by
  induction first with
  | nil => exact second
  | cons step _ ih => exact .cons step (ih second)

theorem Climbs.single {line : Line} {a b : Nat} (step : line.Steps a b) : Climbs a [line] b :=
  .cons step .nil

/-- A line begins with its tag, and the tag tells how the depth of the line is counted. -/
theorem Line.Steps.tag {line : Line} {a b : Nat} (step : line.Steps a b) : ∃ tag, line.text = '<' :: tag ∧
    a = if tag.head? = some '/' then line.depth + 1 else line.depth := by
  have opening {name : List Char} (named : isName name = true) (rest : List Char) :
      (name ++ rest).head? ≠ some '/' := by
    obtain ⟨nonempty, chars⟩ := isName_chars named
    obtain ⟨c, r, rfl⟩ := List.exists_cons_of_ne_nil nonempty
    have first := (chars c List.mem_cons_self).ne (d := '/') (by decide)
    simpa using first
  cases step with
  | opens named => exact ⟨_, rfl, (if_neg (opening named _)).symm⟩
  | closes named => exact ⟨_, rfl, rfl⟩
  | empty named => exact ⟨_, rfl, (if_neg (opening named _)).symm⟩
  | @scalar name _ text named =>
    refine ⟨name ++ ('>' :: (text.flatMap escape ++ closeTag name)), ?_, (if_neg (opening named _)).symm⟩
    simp [textLine, openTag]

theorem Line.Steps.openBehind {line : Line} {a b : Nat} (step : line.Steps a b) (r : List Char) :
    openBehind a (pieces (line.indented ++ r)) = Xml.openBehind b (pieces r) := by
  rw [Line.indented, List.append_assoc, openBehind_indent]
  cases step with
  | opens named => rw [pieces_openTag named, Xml.openBehind]
  | closes named => rw [pieces_closeTag named, Xml.openBehind, Nat.add_sub_cancel]
  | empty named => rw [pieces_emptyTag named, Xml.openBehind]
  | scalar text named =>
    rw [textLine, List.append_assoc, List.append_assoc, pieces_openTag named, pieces_text named,
      Xml.openBehind, openBehind_textPieces, Xml.openBehind, Nat.add_sub_cancel]

theorem Climbs.openBehind {a b : Nat} {ls : List Line} (climbs : Climbs a ls b) :
    openBehind a (pieces (ls.map Line.indented).flatten) = b := by
  induction climbs with
  | nil => rfl
  | cons first _ ih => rw [List.map_cons, List.flatten_cons, first.openBehind, ih]

/-- In front of every line so many elements are open as the line steps from. -/
theorem Climbs.split {a c : Nat} {before after : List Line} {line : Line}
    (climbs : Climbs a (before ++ line :: after) c) : ∃ b b', Climbs a before b ∧ line.Steps b b' := by
  induction before generalizing a with
  | nil =>
    cases climbs with
    | cons first _ => exact ⟨a, _, .nil, first⟩
  | cons l before ih =>
    cases climbs with
    | cons first behind =>
      obtain ⟨b, b', climbs, step⟩ := ih behind
      exact ⟨b, b', .cons first climbs, step⟩

mutual

/-- The lines of an element lead back to the depth that they start from. By induction on the value, in step with
the writer. -/
theorem element_climbs (name : String) (depth : Nat) : ∀ {v : Value} {ls : List Line},
    element name depth v = .ok ls → Climbs depth ls depth
  | .array items, ls, written => by
    obtain ⟨-, -, written⟩ := (bind_eq_ok_iff ..).mp written
    exact elements_climbs name depth written
  | .null, ls, written | .object [], ls, written => by
    obtain ⟨_, checked, rfl⟩ := (map_eq_ok_iff ..).mp written
    exact .single (.empty (checkName_eq_ok_iff.mp checked))
  | .object (field :: fields), ls, written => by
    obtain ⟨_, checked, behind⟩ := (bind_eq_ok_iff ..).mp written
    obtain ⟨inner, listed, rfl⟩ := (map_eq_ok_iff ..).mp behind
    have named := checkName_eq_ok_iff.mp checked
    exact .cons (.opens named) ((members_climbs (depth + 1) listed).append (.single (.closes named)))
  | .bool _, ls, written | .int _, ls, written | .float _, ls, written | .string _, ls, written => by
    obtain ⟨_, checked, rfl⟩ := (map_eq_ok_iff ..).mp written
    exact .single (.scalar _ (checkName_eq_ok_iff.mp checked))

theorem elements_climbs (name : String) (depth : Nat) : ∀ {items : List Value} {ls : List Line},
    elements name depth items = .ok ls → Climbs depth ls depth
  | [], ls, written => by
    cases written
    exact .nil
  | v :: rest, ls, written => by
    obtain ⟨first, head, behind⟩ := (bind_eq_ok_iff ..).mp written
    obtain ⟨second, tail, rfl⟩ := (map_eq_ok_iff ..).mp behind
    exact (element_climbs name depth head).append (elements_climbs name depth tail)

theorem members_climbs (depth : Nat) : ∀ {fields : List (String × Value)} {ls : List Line},
    members depth fields = .ok ls → Climbs depth ls depth
  | [], ls, written => by
    cases written
    exact .nil
  | (key, v) :: rest, ls, written => by
    obtain ⟨first, head, behind⟩ := (bind_eq_ok_iff ..).mp written
    obtain ⟨second, tail, rfl⟩ := (map_eq_ok_iff ..).mp behind
    exact (element_climbs key depth head).append (members_climbs depth tail)

end

theorem lines_climbs {v : Value} {ls : List Line} (written : lines v = .ok ls) : Climbs 0 ls 0 := by
  cases v with
  | object fields => exact members_climbs 0 written
  | _ => exact element_climbs rootName 0 written

/-! ## Scalars -/

theorem scalarTexts_append (a b : List (String × List Char)) :
    scalarTexts (a ++ b) = scalarTexts a ++ scalarTexts b := List.map_append

mutual

/-- Each scalar is a line of the writer. By induction on the value, in step with the writer. -/
theorem element_scalars (name : String) (depth : Nat) : ∀ {v : Value} {ls : List Line},
    element name depth v = .ok ls → (scalarTexts (scalarsOf name v)).Sublist (ls.map Line.text)
  | .array items, ls, written => by
    obtain ⟨-, -, written⟩ := (bind_eq_ok_iff ..).mp written
    exact elements_scalars name depth written
  | .null, ls, written | .object [], ls, written => List.nil_sublist _
  | .object (field :: fields), ls, written => by
    obtain ⟨_, _, behind⟩ := (bind_eq_ok_iff ..).mp written
    obtain ⟨inner, listed, rfl⟩ := (map_eq_ok_iff ..).mp behind
    have inside : (scalarTexts (scalarsOfMembers (field :: fields))).Sublist (inner.map Line.text) :=
      members_scalars (depth + 1) listed
    rw [List.cons_append, List.map_cons, List.map_append]
    exact (inside.trans (List.sublist_append_left _ _)).cons _
  | .bool _, ls, written | .int _, ls, written | .float _, ls, written | .string _, ls, written => by
    obtain ⟨_, _, rfl⟩ := (map_eq_ok_iff ..).mp written
    exact List.Sublist.refl _

theorem elements_scalars (name : String) (depth : Nat) : ∀ {items : List Value} {ls : List Line},
    elements name depth items = .ok ls → (scalarTexts (scalarsOfAll name items)).Sublist (ls.map Line.text)
  | [], ls, written => List.nil_sublist _
  | v :: rest, ls, written => by
    obtain ⟨first, head, behind⟩ := (bind_eq_ok_iff ..).mp written
    obtain ⟨second, tail, rfl⟩ := (map_eq_ok_iff ..).mp behind
    rw [scalarsOfAll, scalarTexts_append, List.map_append]
    exact (element_scalars name depth head).append (elements_scalars name depth tail)

theorem members_scalars (depth : Nat) : ∀ {fields : List (String × Value)} {ls : List Line},
    members depth fields = .ok ls → (scalarTexts (scalarsOfMembers fields)).Sublist (ls.map Line.text)
  | [], ls, written => List.nil_sublist _
  | (key, v) :: rest, ls, written => by
    obtain ⟨first, head, behind⟩ := (bind_eq_ok_iff ..).mp written
    obtain ⟨second, tail, rfl⟩ := (map_eq_ok_iff ..).mp behind
    rw [scalarsOfMembers, scalarTexts_append, List.map_append]
    exact (element_scalars key depth head).append (members_scalars depth tail)

end

theorem lines_scalars {v : Value} {ls : List Line} (written : lines v = .ok ls) :
    (scalarTexts (scalars v)).Sublist (ls.map Line.text) := by
  cases v with
  | object fields => exact members_scalars 0 written
  | _ => exact element_scalars rootName 0 written

/-! ## Margins -/

/-- A tag with what is behind it, on one line. -/
def Line.IsTagLine (line : Line) : Prop := (∃ tag, line.text = '<' :: tag) ∧ '\n' ∉ line.text

theorem dropMargins_clean {cs : List Char} (clean : '\n' ∉ cs) (r : List Char) :
    dropMargins false (cs ++ r) = cs ++ dropMargins false r := by
  induction cs with
  | nil => rfl
  | cons c cs ih =>
    rw [List.mem_cons, not_or] at clean
    rw [List.cons_append, dropMargins, if_neg (Ne.symm clean.1), if_neg (by simp), ih clean.2, List.cons_append]

theorem dropMargins_spaces (n : Nat) (r : List Char) :
    dropMargins true (List.replicate n ' ' ++ r) = dropMargins true r := by
  induction n with
  | zero => rfl
  | succ n ih =>
    rw [List.replicate_succ, List.cons_append, dropMargins, if_neg (by decide), if_pos (by decide), ih]

/-- A margin ends in front of a tag. -/
theorem dropMargins_tag (r : List Char) : dropMargins true ('<' :: r) = dropMargins false ('<' :: r) := rfl

theorem Line.IsTagLine.dropMargins {line : Line} (h : line.IsTagLine) (r : List Char) :
    dropMargins true (line.indented ++ r) = line.text ++ Xml.dropMargins false r := by
  obtain ⟨⟨tag, begins⟩, clean⟩ := h
  rw [← dropMargins_clean clean, Line.indented, List.append_assoc, dropMargins_spaces, begins,
    List.cons_append, dropMargins_tag]

theorem Line.IsTagLine.dropIndent {line : Line} (h : line.IsTagLine) :
    line.indented.dropWhile (· = ' ') = line.text := by
  obtain ⟨⟨tag, begins⟩, -⟩ := h
  have spaces : ∀ c ∈ List.replicate (4 * line.depth) ' ', decide (c = ' ') = true := fun c member =>
    decide_eq_true (List.eq_of_mem_replicate member)
  rw [Line.indented, begins, List.dropWhile_append_of_pos spaces]
  rfl

theorem Line.IsTagLine.newline_notMem {line : Line} (h : line.IsTagLine) : '\n' ∉ line.indented := by
  intro inside
  rcases List.mem_append.mp inside with margin | text
  · exact absurd (List.eq_of_mem_replicate margin) (by decide)
  · exact h.2 text

theorem Line.IsTagLine.getLast? {line : Line} (h : line.IsTagLine) (front : List Char) :
    (front ++ line.indented).getLast? ≠ some '\n' := by
  obtain ⟨⟨tag, begins⟩, clean⟩ := h
  intro last
  rw [Line.indented, ← List.append_assoc, begins, List.getLast?_append_cons] at last
  exact clean (begins ▸ List.mem_of_getLast? last)

theorem Line.IsTagLine.indented_ne_nil {line : Line} (h : line.IsTagLine) : line.indented ≠ [] := by
  obtain ⟨⟨tag, begins⟩, -⟩ := h
  simp [Line.indented, begins]

theorem joinPretty_cons_cons (line next : Line) (ls : List Line) :
    joinPretty (line :: next :: ls) = line.indented ++ '\n' :: joinPretty (next :: ls) := by
  rw [joinPretty]
  simp

/-- The text ends with its last line. -/
theorem exists_last (line : Line) (ls : List Line) :
    ∃ front, ∃ last ∈ line :: ls, joinPretty (line :: ls) = front ++ last.indented := by
  induction ls generalizing line with
  | nil => exact ⟨[], line, List.mem_cons_self, rfl⟩
  | cons next ls ih =>
    obtain ⟨front, last, member, split⟩ := ih next
    refine ⟨line.indented ++ '\n' :: front, last, List.mem_cons_of_mem line member, ?_⟩
    rw [joinPretty_cons_cons, split, List.append_assoc, List.cons_append]

section

variable {ls : List Line} (tagLines : ∀ line ∈ ls, line.IsTagLine)
include tagLines

/-- The text of lines without its margins, as if it stood behind a margin itself. -/
theorem dropMargins_joinPretty : dropMargins true (joinPretty ls) = joinCompact ls := by
  induction ls with
  | nil => rfl
  | cons line ls ih =>
    obtain ⟨first, others⟩ := List.forall_mem_cons.mp tagLines
    cases ls with
    | nil =>
      have alone := first.dropMargins []
      rwa [List.append_nil] at alone
    | cons next ls =>
      rw [joinPretty_cons_cons, first.dropMargins, dropMargins, if_pos rfl, ih others]
      rfl

/-- The lines of the text are the lines that it was made from. -/
theorem lines_joinPretty : Text.lines (joinPretty ls) = ls.map Line.indented := by
  induction ls with
  | nil => rfl
  | cons line ls ih =>
    obtain ⟨first, others⟩ := List.forall_mem_cons.mp tagLines
    cases ls with
    | nil => exact Text.lines_of_clean first.indented_ne_nil first.newline_notMem
    | cons next ls =>
      rw [joinPretty_cons_cons, Text.lines_append first.newline_notMem, ih others]
      rfl

theorem getLast?_joinPretty : (joinPretty ls).getLast? ≠ some '\n' := by
  cases ls with
  | nil => simp [joinPretty]
  | cons line ls =>
    obtain ⟨front, last, member, split⟩ := exists_last line ls
    rw [split]
    exact (tagLines last member).getLast? front

end

/-! ## Whole texts -/

/-- A text that starts from no open element begins with a tag, if it is not empty. -/
theorem Climbs.joinPretty_eq {ls : List Line} {b : Nat} (climbs : Climbs 0 ls b) :
    joinPretty ls = [] ∨ ∃ r, joinPretty ls = '<' :: r := by
  cases climbs with
  | nil => exact .inl rfl
  | @cons line rest _ _ _ first _ =>
    obtain ⟨tag, begins, depth⟩ := first.tag
    have top : line.depth = 0 := by
      split at depth <;> omega
    have indented : line.indented = '<' :: tag := by
      rw [Line.indented, top, begins]
      rfl
    refine .inr ?_
    cases rest with
    | nil => exact ⟨tag, indented⟩
    | cons next rest => exact ⟨_, by rw [joinPretty_cons_cons, indented, List.cons_append]⟩

/-- If no string in a value has a line feed, its lines have none. -/
theorem tagLines_of_written {v : Value} {ls : List Line} (listed : lines v = .ok ls)
    (clean : ∀ s ∈ v.strings, '\n' ∉ s.toList) : ∀ line ∈ ls, line.IsTagLine := by
  have written : Format.write .xml false v = .ok (String.ofList (joinCompact ls)) := by
    rw [Format.write, write, chars, listed]
    rfl
  have feeds : '\n' ∉ joinCompact ls := by
    rw [← String.toList_ofList (l := joinCompact ls), breaksLine_iff written]
    rintro ⟨-, s, member, inside⟩
    exact clean s member inside
  intro line member
  obtain ⟨before, after, split⟩ := List.append_of_mem member
  obtain ⟨b, b', -, step⟩ := (split ▸ lines_climbs listed).split
  obtain ⟨tag, begins, -⟩ := step.tag
  exact ⟨⟨tag, begins⟩, fun inside => feeds (List.mem_flatMap.mpr ⟨line, member, inside⟩)⟩

/-- If a value without line feeds in its strings is written on one line, it is also written on several, and the two
texts differ in nothing but margins. -/
theorem write_laid_out {v : Value} {compact : String} (clean : ∀ s ∈ v.strings, '\n' ∉ s.toList)
    (written : write false v = .ok compact) :
    ∃ pretty, write true v = .ok pretty ∧ LaidOut v compact.toList pretty.toList := by
  obtain ⟨cs, joined, rfl⟩ := (map_eq_ok_iff ..).mp written
  obtain ⟨ls, listed, rfl⟩ := (map_eq_ok_iff ..).mp joined
  have climbs := lines_climbs listed
  have tagLines := tagLines_of_written listed clean
  refine ⟨String.ofList (joinPretty ls), ?_, ?_⟩
  · rw [write, chars, listed]
    rfl
  rw [String.toList_ofList, String.toList_ofList]
  refine ⟨?_, ⟨?_, getLast?_joinPretty tagLines⟩, ?_, ?_⟩
  · -- the text is not behind a margin, but a tag ends a margin anyway
    refine Eq.trans ?_ (dropMargins_joinPretty tagLines)
    rcases climbs.joinPretty_eq with none | ⟨r, begins⟩
    · rw [none]
      rfl
    · rw [begins, dropMargins_tag]
  · rcases climbs.joinPretty_eq with none | ⟨r, begins⟩
    · simp [none]
    · simp [begins]
  · intro before line after split
    rw [lines_joinPretty tagLines] at split
    obtain ⟨first, _, rfl, rfl, later⟩ := List.map_eq_append_iff.mp split
    obtain ⟨l, rest, rfl, rfl, rfl⟩ := List.map_eq_cons_iff.mp later
    obtain ⟨b, b', front, step⟩ := climbs.split
    obtain ⟨tag, begins, counted⟩ := step.tag
    exact ⟨l.depth, tag, by rw [Line.indented, begins], by rw [front.openBehind, counted]⟩
  · have stripped : (Text.lines (joinPretty ls)).map (fun line => line.dropWhile (· = ' ')) =
        ls.map Line.text := by
      rw [lines_joinPretty tagLines, List.map_map]
      exact List.map_congr_left fun line member => (tagLines line member).dropIndent
    rw [stripped]
    exact lines_scalars listed

/-- A text with a space in front of it, a list in a list, and an element with nothing in it on two lines. -/
theorem write_laid_out_nested :
    let v : Value := .object [("_", .object [("__", .array [.string " a<b", .array [.int 5]]),
      ("_-", .object [("_", .array [])])]), ("__", .null)]
    let compact := "<_><__> a&lt;b</__><__>5</__><_-></_-></_><__/>"
    let pretty :=
      "<_>\n    <__> a&lt;b</__>\n    <__>5</__>\n    <_->\n    </_->\n</_>\n<__/>"
    (∀ s ∈ v.strings, '\n' ∉ s.toList) ∧ write false v = .ok compact ∧ write true v = .ok pretty ∧
      LaidOut v compact.toList pretty.toList := by
  intro v compact pretty
  have named : isName "_".toList = true ∧ isName "__".toList = true ∧ isName "_-".toList = true := by
    simp [isName]
  obtain ⟨one, two, hyphen⟩ := named
  have clean : ∀ s ∈ v.strings, '\n' ∉ s.toList := by decide
  have written (several : Bool) : write several v = .ok (if several then pretty else compact) := by
    simp only [v, write, chars, lines, members, element, elements, checkName, one, two, hyphen]
    cases several <;> rfl
  obtain ⟨text, same, laid⟩ := write_laid_out clean (written false)
  rw [written true] at same
  cases same
  exact ⟨clean, written false, written true, laid⟩

end MockSchema.Xml
