import MockSchema.Command.Run
import MockSchema.Proofs.Draws
import MockSchema.Proofs.JsonNumber
import MockSchema.Proofs.Scanning
import MockSchema.Proofs.XmlContent

/-!
# Documents and lines

A run that does not ask for an indentation writes each document with a line feed behind it. A JSON text on one
line has no line feed of its own, since strings escape it; an XML text has the line feeds of the strings in the
value (`breaksLine_iff`). So the lines of the output are the documents exactly if no string in a value breaks
its line, and only XML lets one do so (`run_lines`).
-/

namespace MockSchema

/-! ## Lines -/

namespace Text

/-- What stands in front of each line feed, and behind the last one if there is something. -/
def lines : List Char → List (List Char)
  | [] => []
  | c :: r =>
    if c = '\n' then [] :: lines r
    else
      match lines r with
      | [] => [[c]]
      | first :: others => (c :: first) :: others

/-- A text up to its first line feed is its first line. -/
theorem lines_append {l : List Char} (clean : '\n' ∉ l) (rest : List Char) :
    lines (l ++ '\n' :: rest) = l :: lines rest := by
  induction l with
  | nil => rfl
  | cons c l ih =>
    have other : c ≠ '\n' := fun same => clean (same ▸ List.mem_cons_self)
    have later := ih fun inside => clean (List.mem_cons_of_mem _ inside)
    rw [List.cons_append, lines, if_neg other, later]

/-- A text without a line feed is one line. -/
theorem lines_of_clean {l : List Char} (nonempty : l ≠ []) (clean : '\n' ∉ l) : lines l = [l] := by
  induction l with
  | nil => exact absurd rfl nonempty
  | cons c l ih =>
    rw [List.mem_cons, not_or] at clean
    rw [lines, if_neg (Ne.symm clean.1)]
    cases l with
    | nil => rfl
    | cons d l => rw [ih (List.cons_ne_nil d l) clean.2]

/-- Every line feed ends a line. -/
theorem length_lines_append (l rest : List Char) :
    (lines (l ++ '\n' :: rest)).length = l.count '\n' + 1 + (lines rest).length := by
  induction l with
  | nil =>
    rw [List.nil_append, lines, if_pos rfl, List.length_cons, List.count_nil]
    omega
  | cons c l ih =>
    rw [List.cons_append, lines, List.count_cons]
    by_cases feed : c = '\n'
    · rw [if_pos feed, if_pos (by simpa using feed), List.length_cons, ih]
      omega
    · rw [if_neg feed, if_neg (by simpa using feed)]
      cases next : lines (l ++ '\n' :: rest) with
      | nil =>
        rw [next, List.length_nil] at ih
        omega
      | cons first others =>
        rw [next, List.length_cons] at ih
        simp only [List.length_cons]
        omega

end Text

/-! ## Texts on one line -/

namespace Json

theorem newline_notMem_escape (c : Char) : '\n' ∉ escape c := by
  have digit : ∀ n < 16, Nat.digitChar n ≠ '\n' := by decide
  unfold escape
  split
  · next mark => rcases mark with rfl | rfl <;> decide
  split
  · decide
  split
  · decide
  split
  · decide
  split
  · decide
  split
  · decide
  split
  · next control =>
    intro inside
    simp only [List.mem_cons, List.not_mem_nil, or_false, Char.reduceEq, false_or] at inside
    rcases inside with high | low
    · exact digit _ (by omega) high.symm
    · exact digit _ (by omega) low.symm
  · next feed _ _ _ _ _ => simpa using Ne.symm feed

theorem newline_notMem_string (cs : List Char) : '\n' ∉ string cs := by
  intro inside
  simp only [string, List.cons_append, List.mem_cons, List.mem_append, List.mem_flatMap] at inside
  rcases inside with quote | ⟨c, -, inside⟩ | quote | none
  · cases quote
  · exact newline_notMem_escape c inside
  · cases quote
  · cases none

theorem newline_notMem_number {cs : List Char} {l : Literal} (read : number? cs = some l) :
    '\n' ∉ cs := by
  intro inside
  rcases isNumberChar_of_number? read _ inside with digit | mark
  · cases digit
  · revert mark
    decide

theorem newline_notMem_container {first last : Char} (opens : first ≠ '\n') (closes : last ≠ '\n')
    {parts : List (List Char)} (clean : ∀ part ∈ parts, '\n' ∉ part) :
    '\n' ∉ container .compact first last parts := by
  have joined : '\n' ∉ joinParts .compact parts := by
    induction parts with
    | nil => exact List.not_mem_nil
    | cons part parts ih =>
      obtain ⟨here, clean⟩ := List.forall_mem_cons.mp clean
      cases parts with
      | nil => exact here
      | cons next parts => simp [joinParts, Layout.lineStart, here, ih clean]
  unfold container
  split
  · simp [opens.symm, closes.symm]
  · simpa [Layout.deeper, Layout.lineStart, opens.symm, closes.symm] using joined

mutual

/-- A text on one line has no line feed. By induction on the value. -/
theorem newline_notMem_chars : ∀ v : Value, '\n' ∉ chars .compact v
  | .null => by decide
  | .bool b => by cases b <;> decide
  | .int i => newline_notMem_number (number?_intChars i)
  | .float x => by
    rw [chars]
    by_cases finite : x.isFinite = true
    · exact newline_notMem_number (number?_float finite)
    · rw [float, if_neg finite]
      decide
  | .string s => newline_notMem_string s.toList
  | .array items => newline_notMem_container (by decide) (by decide) (newline_notMem_itemChars items)
  | .object fields => newline_notMem_container (by decide) (by decide) (newline_notMem_fieldChars fields)

theorem newline_notMem_itemChars : ∀ items : List Value, ∀ part ∈ itemChars .compact items, '\n' ∉ part
  | [] => by simp [itemChars]
  | v :: rest => List.forall_mem_cons.mpr ⟨newline_notMem_chars v, newline_notMem_itemChars rest⟩

theorem newline_notMem_fieldChars :
    ∀ fields : List (String × Value), ∀ part ∈ fieldChars .compact fields, '\n' ∉ part
  | [] => by simp [fieldChars]
  | (key, v) :: rest => by
    have first : '\n' ∉ string key.toList ++ Layout.compact.colon ++ chars .compact v := by
      simp [Layout.colon, newline_notMem_string key.toList, newline_notMem_chars v]
    exact List.forall_mem_cons.mpr ⟨first, newline_notMem_fieldChars rest⟩

end

end Json

namespace Xml

open Grammar

/-- The line feeds of a text are those of the strings in it. -/
theorem newline_notMem_iff {blank : Char → Prop} (margin : ∀ c, blank c → c ≠ '\n') {items : List Item}
    {cs : List Char} (h : Writes blank items cs) : '\n' ∉ cs ↔ Every (· ≠ '\n') (textsOf items) := by
  constructor
  · rintro clean t listed _ member rfl
    have inside : '\n' ∈ t.toList.flatMap escape := List.mem_flatMap.mpr ⟨'\n', member, by decide⟩
    exact clean ((h.text_infix listed).subset inside)
  · intro every inside
    have texts : Every (fun c => Follows '\n' (fun _ => False) (escape c)) (textsOf items) := by
      intro t listed c member
      refine follows_of_notMem fun escaped => ?_
      rcases escape_cases c with ⟨⟨entity, entities, same⟩, -⟩ | ⟨same, -⟩
      · rw [same] at escaped
        simp only [entityNames, List.mem_cons, List.not_mem_nil, or_false] at entities
        rcases entities with rfl | rfl | rfl | rfl | rfl <;> revert escaped <;> decide
      · rw [same, List.mem_singleton] at escaped
        exact every t listed c member escaped.symm
    have never : Follows '\n' (fun _ => False) cs :=
      h.follows (fun _ _ never => never) margin (follows_tags (by decide) (by decide)) texts
    obtain ⟨front, rest, split⟩ := List.append_of_mem inside
    exact never front rest split

end Xml

/-- A string in a value leaves the line on which the value is written: XML keeps line feeds as they are. -/
def BreaksLine (format : Format) (v : Value) : Prop :=
  format = .xml ∧ ∃ s ∈ v.strings, '\n' ∈ s.toList

/-- A value is written with a line feed exactly if a string in it breaks the line. -/
theorem breaksLine_iff {format : Format} {v : Value} {text : String}
    (written : format.write false v = .ok text) : '\n' ∈ text.toList ↔ BreaksLine format v := by
  cases format with
  | json =>
    obtain rfl := Except.ok.inj written
    have clean : '\n' ∉ (Json.write false v).toList := by
      rw [Json.write, String.toList_ofList]
      exact Json.newline_notMem_chars v
    simp [BreaksLine, clean]
  | xml =>
    have compact : Xml.write false v = .ok text := by
      rw [Format.write] at written
      split at written
      · next same => rw [same, ← Except.ok.inj written]
      · cases written
    have constants : Xml.HasScalarChars (· ≠ '\n') := by
      rintro _ constant rfl
      revert constant
      simp [Xml.IsScalarChar]
    have writes : Xml.Writes (fun _ => False) (Xml.forest v) text.toList :=
      Xml.write_writes_compact compact
    have feeds := (Xml.newline_notMem_iff (by simp) writes).trans (Xml.every_forest constants v)
    rw [← not_iff_not, feeds]
    simp only [BreaksLine, Xml.Every, true_and, not_exists, not_and]
    exact forall₂_congr fun s _ => ⟨fun each inside => each _ inside rfl,
      fun clean c inside same => clean (same ▸ inside)⟩

/-! ## Runs -/

namespace Command

open Gen
open MockSchema.Random (ChaCha)

variable {σ : Type} [RandomSource σ]

theorem document_eq_ok_iff (schema : Schema Generator) (format : Format) (pretty : Bool) (number : Nat)
    (world world' : World σ) (text : String) :
    document schema format pretty number world = (.ok text, world') ↔
      ∃ v, (schema.generate Generator.draw).runFrom world = (.ok v, world') ∧
        format.write pretty v = .ok text := by
  unfold document
  rcases (schema.generate Generator.draw).runFrom world with ⟨_ | v, next⟩
  · simp
  · simp only [Prod.mk.injEq, Except.ok.injEq, and_assoc, exists_eq_left']
    cases format.write pretty v with
    | error e => simp
    | ok text' => simp [and_comm]

theorem documents_succ_eq_iff (schema : Schema Generator) (format : Format) (pretty : Bool)
    (count number : Nat) (world : World σ) (texts : List String) :
    documents schema format pretty (count + 1) number world = (texts, none) ↔
      ∃ text world' rest, document schema format pretty number world = (.ok text, world') ∧
        documents schema format pretty count (number + 1) world' = (rest, none) ∧
          texts = text :: rest := by
  rw [documents]
  rcases document schema format pretty number world with ⟨_ | text, next⟩
  · simp
  · simp only [Prod.mk.injEq, Except.ok.injEq]
    constructor
    · rintro ⟨rfl, stop⟩
      exact ⟨text, next, _, ⟨rfl, rfl⟩, Prod.ext rfl stop, rfl⟩
    · rintro ⟨_, _, rest, ⟨rfl, rfl⟩, others, rfl⟩
      rw [others]
      exact ⟨rfl, rfl⟩

/-- Documents come out without an error exactly if that many values can be drawn in turn and each of them can be
written. By induction on their number. -/
theorem documents_eq_iff (schema : Schema Generator) (format : Format) (pretty : Bool)
    (count number : Nat) (world : World σ) (texts : List String) :
    documents schema format pretty count number world = (texts, none) ↔
      ∃ values world', (times (schema.generate Generator.draw) count).runFrom world =
          (.ok values, world') ∧
        List.Forall₂ (fun v text => format.write pretty v = .ok text) values texts := by
  induction count generalizing number world texts with
  | zero =>
    simp only [documents, times, runFrom_pure]
    constructor
    · intro same
      cases same
      exact ⟨[], world, rfl, .nil⟩
    · rintro ⟨values, world', same, each⟩
      cases same
      cases each
      rfl
  | succ count ih =>
    rw [documents_succ_eq_iff, times]
    simp only [document_eq_ok_iff, ih, runFrom_bind_eq_ok_iff, runFrom_pure]
    constructor
    · rintro ⟨text, next, rest, ⟨v, drawn, written⟩, ⟨values, last, others, each⟩, rfl⟩
      exact ⟨v :: values, last, ⟨v, next, drawn, values, last, others, rfl⟩, .cons written each⟩
    · rintro ⟨_, last, ⟨v, next, drawn, values, _, others, same⟩, each⟩
      cases same
      cases each with
      | cons written each =>
        exact ⟨_, next, _, ⟨v, drawn, written⟩, ⟨values, last, others, each⟩, rfl⟩

theorem joinDocuments_toList (texts : List String) :
    (joinDocuments texts).toList = texts.flatMap fun text => text.toList ++ ['\n'] := by
  simp [joinDocuments, String.toList_join, List.flatMap_map]

/-- There is a line for each document and for each line feed in one. By induction on the documents. -/
theorem length_lines_joinDocuments (texts : List String) :
    (Text.lines (joinDocuments texts).toList).length =
      texts.length + (texts.map fun text => text.toList.count '\n').sum := by
  rw [joinDocuments_toList]
  induction texts with
  | nil => rfl
  | cons text texts ih =>
    rw [List.flatMap_cons, List.append_assoc, List.singleton_append, Text.length_lines_append, ih,
      List.length_cons, List.map_cons, List.sum_cons]
    omega

theorem length_lines_joinDocuments_iff (texts : List String) :
    (Text.lines (joinDocuments texts).toList).length = texts.length ↔
      ∀ text ∈ texts, '\n' ∉ text.toList := by
  rw [length_lines_joinDocuments, Nat.add_eq_left, List.sum_eq_zero_iff]
  simp [List.count_eq_zero]

/-- The lines are the documents exactly if no document has a line feed. -/
theorem lines_joinDocuments_iff (texts : List String) :
    Text.lines (joinDocuments texts).toList = texts.map String.toList ↔
      ∀ text ∈ texts, '\n' ∉ text.toList := by
  constructor
  · intro same
    have count := congrArg List.length same
    rw [List.length_map] at count
    exact (length_lines_joinDocuments_iff texts).mp count
  · intro clean
    rw [joinDocuments_toList]
    induction texts with
    | nil => rfl
    | cons text texts ih =>
      obtain ⟨first, clean⟩ := List.forall_mem_cons.mp clean
      rw [List.flatMap_cons, List.append_assoc, List.singleton_append, Text.lines_append first,
        ih clean, List.map_cons]

/-- The world in which a run begins to draw. -/
def firstWorld (options : Options) (now : Instant) (entropy : UInt64) : World ChaCha :=
  ⟨ChaCha.ofSeed (options.seed.getD entropy), now, []⟩

theorem outcome_code_ne_zero (e : RunError) (stdout : String) : (e.outcome stdout).code ≠ 0 := by
  unfold RunError.outcome
  dsimp only
  split <;> decide

theorem writeDocuments_eq_ok {schema : Schema Generator} {options : Options} {world : World σ}
    (succeeds : (writeDocuments schema options world).code = 0) :
    ∃ texts, documents schema options.format options.pretty options.count 1 world = (texts, none) ∧
      writeDocuments schema options world = ⟨0, joinDocuments texts, ""⟩ := by
  unfold writeDocuments at succeeds ⊢
  revert succeeds
  rcases documents schema options.format options.pretty options.count 1 world with ⟨texts, _ | e⟩
  · exact fun _ => ⟨texts, rfl, rfl⟩
  · exact fun succeeds => absurd succeeds (outcome_code_ne_zero e (joinDocuments texts))

theorem run_eq_writeDocuments {options : Options} {file : Option GeneratorFile} {stdin : ByteArray}
    {schema : Schema Generator} (loaded : loadSchema options file stdin = .ok schema) (now : Instant)
    (entropy : UInt64) : run options file stdin now entropy =
      writeDocuments schema options (firstWorld options now entropy) := by
  rw [run, loaded]
  rfl

/-- A run succeeds only if a schema is found and all documents come out. -/
theorem run_eq_ok {options : Options} {file : Option GeneratorFile} {stdin : ByteArray} {now : Instant}
    {entropy : UInt64} (succeeds : (run options file stdin now entropy).code = 0) :
    ∃ schema texts, loadSchema options file stdin = .ok schema ∧
      documents schema options.format options.pretty options.count 1
        (firstWorld options now entropy) = (texts, none) ∧
      run options file stdin now entropy = ⟨0, joinDocuments texts, ""⟩ := by
  cases loaded : loadSchema options file stdin with
  | error e =>
    rw [run, loaded] at succeeds
    exact absurd succeeds (outcome_code_ne_zero e "")
  | ok schema =>
    rw [run_eq_writeDocuments loaded] at succeeds ⊢
    obtain ⟨texts, came, outcome⟩ := writeDocuments_eq_ok succeeds
    exact ⟨schema, texts, rfl, came, outcome⟩

/-- A value is written with a line feed exactly if a string in it breaks the line, which JSON never lets happen.
A run on single lines that succeeds draws as many values as it was asked for and writes each of them; the lines
of its output are these documents exactly if no value breaks its line, and only then are there as many lines as
documents. -/
theorem run_lines (options : Options) (file : Option GeneratorFile) (stdin : ByteArray) (now : Instant)
    (entropy : UInt64) :
    (∀ (v : Value) (text : String), options.format.write false v = .ok text →
      ('\n' ∈ text.toList ↔ BreaksLine options.format v)) ∧
    (options.pretty = false → (run options file stdin now entropy).code = 0 →
      ∃ schema values texts world,
        loadSchema options file stdin = .ok schema ∧
        (times (schema.generate Generator.draw) options.count).runFrom
          (firstWorld options now entropy) = (.ok values, world) ∧
        List.Forall₂ (fun v text => options.format.write false v = .ok text) values texts ∧
        texts.length = options.count ∧
        (Text.lines (run options file stdin now entropy).stdout.toList = texts.map String.toList ↔
          ∀ v ∈ values, ¬ BreaksLine options.format v) ∧
        ((Text.lines (run options file stdin now entropy).stdout.toList).length = options.count ↔
          ∀ v ∈ values, ¬ BreaksLine options.format v)) := by
  refine ⟨fun v text written => breaksLine_iff written, fun single succeeds => ?_⟩
  obtain ⟨schema, texts, loaded, came, outcome⟩ := run_eq_ok succeeds
  rw [single] at came
  obtain ⟨values, world, drawn, written⟩ := (documents_eq_iff ..).mp came
  have drawnCount : values.length = options.count := by
    have all : (schema.generate Generator.draw : Gen (World ChaCha) Value).Yields fun _ => True :=
      fun _ _ _ _ => trivial
    exact (all.times options.count drawn).1
  have count : texts.length = options.count := written.length_eq ▸ drawnCount
  have broken : (∀ text ∈ texts, '\n' ∉ text.toList) ↔ ∀ v ∈ values, ¬ BreaksLine options.format v := by
    clear drawn drawnCount count came outcome
    induction written with
    | nil => simp
    | cons first _ ih => simp [breaksLine_iff first, ih]
  refine ⟨schema, values, texts, world, loaded, drawn, written, count, ?_, ?_⟩
  · rw [outcome, lines_joinDocuments_iff, broken]
  · rw [outcome, ← count, length_lines_joinDocuments_iff, broken]

/-- A string with a line feed is written on two lines. -/
theorem run_lines_feed :
    ∃ options : Options, options.pretty = false ∧
      run options none .empty ⟨0, 0⟩ 0 = ⟨0, "<value>a\nb</value>\n", ""⟩ ∧
      ∃ values texts, List.Forall₂ (fun v text => options.format.write false v = .ok text) values texts ∧
        texts.length = 1 ∧ ¬ ∀ v ∈ values, ¬ BreaksLine options.format v := by
  have cut : Token.tokenize "\"a\nb\"" = .ok [⟨.string, "a\nb", 0⟩, ⟨.eof, "", 5⟩] := by
    rw [Token.tokenize, Token.tokenizeFrom_eq_collect (k := 1)]
    · rfl
    · rfl
    · decide
  have named : Xml.isName Xml.rootName.toList = true := by
    simp only [Xml.isName, Xml.rootName, String.toList, Unicode.isAlphabetic_eq, Unicode.isAlphanumeric_eq]
    decide +kernel
  let options : Options := ⟨some "\"a\nb\"", .xml, 1, false, some 0, none, 10, ⟨0x3FE8000000000000⟩⟩
  have loaded : loadSchema options none .empty = .ok ⟨some (.literal (.string "a\nb"))⟩ := by
    have parsed : ∀ context : Context Generator,
        Schema.parse context "\"a\nb\"" = .ok ⟨some (.literal (.string "a\nb"))⟩ := by
      intro context
      rw [Schema.parse, cut]
      rfl
    have ready : setup none 10 ⟨0x3FE8000000000000⟩ = .ok ⟨Generator.builtins, .initial⟩ := rfl
    unfold loadSchema
    simp only [options, schemaText, ready, bind, Except.bind, parsed]
  have written : Xml.write false (.string "a\nb") = .ok "<value>a\nb</value>" := by
    simp only [Xml.write, Xml.chars, Xml.lines, Xml.element, Xml.checkName, named]
    rfl
  have outcome : run options none .empty ⟨0, 0⟩ 0 = ⟨0, "<value>a\nb</value>\n", ""⟩ := by
    have first : document ⟨some (.literal (.string "a\nb"))⟩ .xml false 1 (firstWorld options ⟨0, 0⟩ 0) =
        (.ok "<value>a\nb</value>", firstWorld options ⟨0, 0⟩ 0) :=
      (document_eq_ok_iff ..).mpr ⟨.string "a\nb", rfl, by rw [Format.write, written]⟩
    have all : documents ⟨some (.literal (.string "a\nb"))⟩ .xml false 1 1 (firstWorld options ⟨0, 0⟩ 0) =
        (["<value>a\nb</value>"], none) :=
      (documents_succ_eq_iff ..).mpr ⟨_, _, [], first, rfl, rfl⟩
    rw [run, loaded]
    change writeDocuments _ options (firstWorld options ⟨0, 0⟩ 0) = _
    rw [writeDocuments, all]
    rfl
  obtain ⟨schema, values, texts, world, -, -, each, count, -, number⟩ :=
    (run_lines options none .empty ⟨0, 0⟩ 0).2 rfl (congrArg Outcome.code outcome)
  refine ⟨options, rfl, outcome, values, texts, each, count, ?_⟩
  rw [← number, outcome]
  decide

end Command

end MockSchema
