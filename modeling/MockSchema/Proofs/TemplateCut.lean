import Mathlib.Data.List.Forall2
import MockSchema.Proofs.Outcome
import MockSchema.Schema.Template

/-!
# Cutting a template at its places

A template is text with named places in it. This module says what the written form of a template is from
the side of its places, without a reader: a cut is a list of texts and names, and it is leftmost if every
place begins and ends as early as it can. `template_eq_ok_iff` states that the reader accepts exactly the
leftmost cuts whose names are registered, and what it makes of them; `template_eq_error_iff` that every other
template is refused for the first place in it that cannot be read.
-/

namespace MockSchema

/-- No place begins in the text. -/
def IsPlain (s : List Char) : Prop := ¬ ['$', '{'] <:+: s

/-- A template cut at its places: the text before each place with the name in it, and the text behind
the last one. -/
structure TemplateCut where
  places : List (List Char × List Char)
  tail : List Char

namespace TemplateCut

/-- A place as it is written. -/
def placeChars (name : List Char) : List Char := '$' :: '{' :: name ++ ['}']

/-- The template as it is written. -/
def chars (cut : TemplateCut) : List Char :=
  cut.places.flatMap (fun p => p.1 ++ placeChars p.2) ++ cut.tail

theorem append_place (s name cs : List Char) :
    s ++ '$' :: '{' :: (name ++ '}' :: cs) = s ++ placeChars name ++ cs := by
  simp [placeChars]

theorem chars_cons (s name : List Char) (places : List (List Char × List Char)) (tail : List Char) :
    (TemplateCut.mk ((s, name) :: places) tail).chars =
      s ++ placeChars name ++ (TemplateCut.mk places tail).chars := by
  simp [chars]

/-- Every place begins and ends as early as it can, and none is left open. -/
structure IsLeftmost (cut : TemplateCut) : Prop where
  text_plain : ∀ p ∈ cut.places, IsPlain p.1
  name_closed : ∀ p ∈ cut.places, '}' ∉ p.2
  tail_plain : IsPlain cut.tail

/-- The segment of a text; none for the empty text. -/
def textSegments (s : List Char) : List Segment :=
  if s.isEmpty then [] else [.text (String.ofList s)]

/-- Segments of texts and places, the places numbered from `index` on. -/
def segmentsFrom (tail : List Char) : Nat → List (List Char × List Char) → List Segment
  | _, [] => textSegments tail
  | index, p :: rest => textSegments p.1 ++ .param index :: segmentsFrom tail (index + 1) rest

def segments (cut : TemplateCut) : List Segment := segmentsFrom cut.tail 0 cut.places

end TemplateCut

theorem isPlain_nil : IsPlain [] := by simp [IsPlain]

theorem isPlain_cons_iff (c : Char) (s : List Char) :
    IsPlain (c :: s) ↔ ¬ (c = '$' ∧ s.head? = some '{') ∧ IsPlain s := by
  simp only [IsPlain, List.infix_cons_iff, not_or]
  refine and_congr_left fun _ => not_congr ?_
  cases s with
  | nil => simp [List.cons_prefix_cons]
  | cons d s => simp [List.cons_prefix_cons, eq_comm]

/-- Every text is plain or has a first place in it. -/
theorem isPlain_or_place (cs : List Char) :
    IsPlain cs ∨ ∃ s r, IsPlain s ∧ cs = s ++ '$' :: '{' :: r := by
  induction cs with
  | nil => exact .inl isPlain_nil
  | cons c cs ih =>
    by_cases hc : c = '$' ∧ cs.head? = some '{'
    · obtain ⟨rfl, hd⟩ := hc
      obtain ⟨r, rfl⟩ : ∃ r, cs = '{' :: r := List.head?_eq_some_iff.mp hd
      exact .inr ⟨[], r, isPlain_nil, rfl⟩
    · rcases ih with plain | ⟨s, r, plain, rfl⟩
      · exact .inl ((isPlain_cons_iff c cs).mpr ⟨hc, plain⟩)
      · refine .inr ⟨c :: s, r, (isPlain_cons_iff c s).mpr ⟨?_, plain⟩, rfl⟩
        rintro ⟨rfl, hd⟩
        cases s with
        | nil => simp at hd
        | cons d s => exact hc ⟨rfl, by simpa using hd⟩

/-- Behind the start of a place there is a name with its brace, or no brace at all. -/
theorem name_or_unclosed (cs : List Char) :
    (∃ name r, '}' ∉ name ∧ cs = name ++ '}' :: r) ∨ '}' ∉ cs := by
  by_cases h : '}' ∈ cs
  · obtain ⟨name, r, rfl, hn⟩ := List.eq_append_cons_of_mem h
    exact .inl ⟨name, r, hn, rfl⟩
  · exact .inr h

namespace TemplatePiece

/-- Plain text before a place is collected up to it. -/
theorem cutText_place {s : List Char} (plain : IsPlain s) (collected : List Char) (offset : Nat)
    (r : List Char) : cutText collected offset (s ++ '$' :: '{' :: r) =
      ofReversed (s.reverse ++ collected) ++
        cutName (offset + Text.width s) [] (offset + Text.width s + 2) r := by
  induction s generalizing collected offset with
  | nil => simp [cutText]
  | cons c s ih =>
    obtain ⟨hc, plain⟩ := (isPlain_cons_iff c s).mp plain
    rw [List.cons_append, cutText, ih plain (c :: collected) (offset + c.utf8Size)]
    · simp [Nat.add_assoc]
    · rintro r' rfl hr
      refine hc ⟨rfl, ?_⟩
      cases s with
      | nil => simp at hr
      | cons d s => simpa using (List.cons.inj hr).1

/-- Plain text to the end is one piece. -/
theorem cutText_plain {s : List Char} (plain : IsPlain s) (collected : List Char) (offset : Nat) :
    cutText collected offset s = ofReversed (s.reverse ++ collected) := by
  induction s generalizing collected offset with
  | nil => simp [cutText]
  | cons c s ih =>
    obtain ⟨hc, plain⟩ := (isPlain_cons_iff c s).mp plain
    rw [cutText, ih plain]
    · simp
    · rintro r' rfl rfl
      exact hc ⟨rfl, rfl⟩

theorem cutName_closed {name : List Char} (closed : '}' ∉ name) (start : Nat)
    (collected : List Char) (offset : Nat) (r : List Char) :
    cutName start collected offset (name ++ '}' :: r) =
      .place (collected.reverse ++ name) start :: cutText [] (offset + Text.width name + 1) r := by
  induction name generalizing collected offset with
  | nil => simp [cutName]
  | cons c name ih =>
    obtain ⟨hc, closed⟩ : '}' ≠ c ∧ '}' ∉ name := by simpa using closed
    rw [List.cons_append, cutName, if_neg (Ne.symm hc), ih closed (c :: collected)]
    simp [Nat.add_assoc]

/-- Text up to a place, the place, and what is behind it. -/
theorem cutText_cut {s name : List Char} (plain : IsPlain s) (closed : '}' ∉ name) (offset : Nat)
    (cs : List Char) : cutText [] offset (s ++ TemplateCut.placeChars name ++ cs) =
      ofReversed s.reverse ++ .place name (offset + Text.width s) ::
        cutText [] (offset + Text.width (s ++ TemplateCut.placeChars name)) cs := by
  have cut := cutText_place plain [] offset (name ++ '}' :: cs)
  rw [cutName_closed closed] at cut
  have behind : offset + Text.width s + 2 + Text.width name + 1 =
      offset + Text.width (s ++ TemplateCut.placeChars name) := by
    have one : '$'.utf8Size = 1 ∧ '{'.utf8Size = 1 ∧ '}'.utf8Size = 1 := by decide
    simp [TemplateCut.placeChars, one]
    omega
  rw [behind] at cut
  simpa [TemplateCut.placeChars] using cut

theorem cutName_unclosed {cs : List Char} (h : '}' ∉ cs) (start : Nat) (collected : List Char)
    (offset : Nat) : cutName start collected offset cs = [.unclosed] := by
  induction cs generalizing collected offset with
  | nil => simp [cutName]
  | cons c cs ih =>
    obtain ⟨hc, h⟩ : '}' ≠ c ∧ '}' ∉ cs := by simpa using h
    rw [cutName, if_neg (Ne.symm hc), ih h]

end TemplatePiece

namespace Registry

variable {η : Type}

/-- A terminal that a written name stands for. White space around the name does not count. -/
def Names (r : Registry η) (name : List Char) (t : Terminal η) : Prop :=
  t.name = String.ofList (Text.trim Unicode.isWhiteSpace name) ∧ r.get? t.name = some t.handle

theorem resolve_eq_ok_iff (r : Registry η) (name : String) (offset : Nat) (t : Terminal η) :
    r.resolve name offset = .ok t ↔ t.name = name ∧ r.get? name = some t.handle := by
  obtain ⟨n, handle⟩ := t
  unfold resolve
  cases r.get? name with
  | none => simp
  | some found => simp [eq_comm]

theorem resolve_trim_eq_ok_iff (r : Registry η) (name : List Char) (offset : Nat)
    (t : Terminal η) :
    r.resolve (String.ofList (Text.trim Unicode.isWhiteSpace name)) offset = .ok t ↔
      r.Names name t := by
  rw [resolve_eq_ok_iff]
  constructor
  · rintro ⟨same, found⟩
    exact ⟨same, same ▸ found⟩
  · rintro ⟨same, found⟩
    exact ⟨same, same ▸ found⟩

theorem resolvePieces_text (r : Registry η) (raw : String) (count : Nat) (s : List Char)
    (rest : List TemplatePiece) :
    r.resolvePieces raw count (TemplatePiece.ofReversed s.reverse ++ rest) =
      (r.resolvePieces raw count rest).map fun p => (TemplateCut.textSegments s ++ p.1, p.2) := by
  cases s with
  | nil =>
    simp only [TemplatePiece.ofReversed, TemplateCut.textSegments]
    cases h : r.resolvePieces raw count rest <;> simp [h, Except.map]
  | cons c s =>
    simp only [TemplatePiece.ofReversed, TemplateCut.textSegments, List.reverse_cons]
    cases h : r.resolvePieces raw count rest <;>
      simp [resolvePieces, h, bind, Except.bind, Except.map, pure, Except.pure]

theorem resolve_trim_eq_error_iff (r : Registry η) (name : List Char) (offset : Nat)
    (e : SchemaError) :
    r.resolve (String.ofList (Text.trim Unicode.isWhiteSpace name)) offset = .error e ↔
      r.get? (String.ofList (Text.trim Unicode.isWhiteSpace name)) = none ∧
        e = .unknownName (String.ofList (Text.trim Unicode.isWhiteSpace name)) offset := by
  unfold resolve
  split
  · next found => simp [found]
  · next none => simp [none, eq_comm]

section

variable (r : Registry η) (raw : String) (count offset : Nat) {s name : List Char}

/-- The name in a place is looked up before the rest of the template. -/
theorem resolvePieces_cut_place (plain : IsPlain s) (closed : '}' ∉ name) (cs : List Char) :
    r.resolvePieces raw count (TemplatePiece.cutText [] offset
        (s ++ TemplateCut.placeChars name ++ cs)) = (do
      let t ← r.resolve (String.ofList (Text.trim Unicode.isWhiteSpace name)) (offset + Text.width s)
      let p ← r.resolvePieces raw (count + 1) (TemplatePiece.cutText []
        (offset + Text.width (s ++ TemplateCut.placeChars name)) cs)
      return (TemplateCut.textSegments s ++ .param count :: p.1, t :: p.2)) := by
  rw [TemplatePiece.cutText_cut plain closed, resolvePieces_text, resolvePieces]
  cases r.resolve (String.ofList (Text.trim Unicode.isWhiteSpace name)) (offset + Text.width s) with
  | error e => rfl
  | ok t =>
    cases r.resolvePieces raw (count + 1) (TemplatePiece.cutText []
      (offset + Text.width (s ++ TemplateCut.placeChars name)) cs) with
    | error e => rfl
    | ok p => rfl

theorem resolvePieces_cut_place_eq_ok_iff (plain : IsPlain s) (closed : '}' ∉ name) (cs : List Char)
    (segments : List Segment) (params : List (Terminal η)) :
    r.resolvePieces raw count (TemplatePiece.cutText [] offset
        (s ++ TemplateCut.placeChars name ++ cs)) = .ok (segments, params) ↔
      ∃ t segments' params', r.Names name t ∧
        r.resolvePieces raw (count + 1) (TemplatePiece.cutText []
          (offset + Text.width (s ++ TemplateCut.placeChars name)) cs) = .ok (segments', params') ∧
        segments = TemplateCut.textSegments s ++ .param count :: segments' ∧
        params = t :: params' := by
  simp only [r.resolvePieces_cut_place raw count offset plain closed cs, bind_eq_ok_iff,
    resolve_trim_eq_ok_iff]
  constructor
  · rintro ⟨t, names, ⟨segments', params'⟩, read, made⟩
    obtain ⟨rfl, rfl⟩ := Prod.mk.inj (Except.ok.inj made)
    exact ⟨t, segments', params', names, read, rfl, rfl⟩
  · rintro ⟨t, segments', params', names, read, rfl, rfl⟩
    exact ⟨t, names, ⟨segments', params'⟩, read, rfl⟩

/-- A place is refused if its name is unknown, and else if something behind it is. -/
theorem resolvePieces_cut_place_eq_error_iff (plain : IsPlain s) (closed : '}' ∉ name)
    (cs : List Char) (e : SchemaError) :
    r.resolvePieces raw count (TemplatePiece.cutText [] offset
        (s ++ TemplateCut.placeChars name ++ cs)) = .error e ↔
      (r.get? (String.ofList (Text.trim Unicode.isWhiteSpace name)) = none ∧
        e = .unknownName (String.ofList (Text.trim Unicode.isWhiteSpace name))
          (offset + Text.width s)) ∨
      ∃ t, r.Names name t ∧ r.resolvePieces raw (count + 1) (TemplatePiece.cutText []
        (offset + Text.width (s ++ TemplateCut.placeChars name)) cs) = .error e := by
  simp only [r.resolvePieces_cut_place raw count offset plain closed cs, bind_eq_error_iff,
    resolve_trim_eq_ok_iff, resolve_trim_eq_error_iff]
  refine or_congr_right (exists_congr fun t => and_congr_right fun _ => ?_)
  constructor
  · rintro (refused | ⟨_, -, made⟩)
    · exact refused
    · cases made
  · exact .inl

end

/-- A plain text has no parameters. -/
theorem resolvePieces_cut_plain (r : Registry η) (raw : String) (count offset : Nat)
    {s : List Char} (plain : IsPlain s) :
    r.resolvePieces raw count (TemplatePiece.cutText [] offset s) =
      .ok (TemplateCut.textSegments s, []) := by
  rw [TemplatePiece.cutText_plain plain, List.append_nil]
  simpa [resolvePieces, Except.map] using r.resolvePieces_text raw count s []

/-- A template with an open place is refused. -/
theorem resolvePieces_cut_unclosed (r : Registry η) (raw : String) (count offset : Nat)
    {s name : List Char} (plain : IsPlain s) (h : '}' ∉ name) :
    r.resolvePieces raw count (TemplatePiece.cutText [] offset (s ++ '$' :: '{' :: name)) =
      .error (.unclosedPlace raw) := by
  rw [TemplatePiece.cutText_place plain, TemplatePiece.cutName_unclosed h, List.append_nil,
    resolvePieces_text]
  rfl

end Registry

namespace TemplateCut

variable {η : Type}

/-- Soundness, by induction on the text left: every place read takes at least three characters. -/
theorem of_resolvePieces (r : Registry η) (raw : String) (cs : List Char) (count offset : Nat)
    (segments : List Segment) (params : List (Terminal η))
    (h : r.resolvePieces raw count (TemplatePiece.cutText [] offset cs) =
      .ok (segments, params)) :
    ∃ cut : TemplateCut, cut.chars = cs ∧ cut.IsLeftmost ∧
      segments = segmentsFrom cut.tail count cut.places ∧
      List.Forall₂ r.Names (cut.places.map Prod.snd) params := by
  induction hn : cs.length using Nat.strongRecOn generalizing cs count offset segments params with
  | ind n ih =>
    rcases isPlain_or_place cs with plain | ⟨s, behind, plain, rfl⟩
    · rw [r.resolvePieces_cut_plain raw count offset plain] at h
      obtain ⟨rfl, rfl⟩ := Prod.mk.inj (Except.ok.inj h)
      exact ⟨⟨[], cs⟩, rfl, ⟨by simp, by simp, plain⟩, rfl, .nil⟩
    · rcases name_or_unclosed behind with ⟨name, rest, closed, rfl⟩ | unclosed
      · rw [append_place] at h
        obtain ⟨t, segments', params', names, read, rfl, rfl⟩ :=
          (r.resolvePieces_cut_place_eq_ok_iff raw count offset plain closed rest ..).mp h
        have shorter : rest.length < n := by
          simp only [List.length_append, List.length_cons] at hn
          omega
        obtain ⟨cut, rfl, leftmost, rfl, found⟩ :=
          ih _ shorter rest (count + 1) _ segments' params' read rfl
        refine ⟨⟨(s, name) :: cut.places, cut.tail⟩, ?_, ⟨?_, ?_, leftmost.tail_plain⟩, rfl,
          .cons names found⟩
        · simp [chars, placeChars]
        · exact List.forall_mem_cons.mpr ⟨plain, leftmost.text_plain⟩
        · exact List.forall_mem_cons.mpr ⟨closed, leftmost.name_closed⟩
      · rw [r.resolvePieces_cut_unclosed raw count offset plain unclosed] at h
        cases h

/-- Completeness, by induction on the places. -/
theorem resolvePieces_chars (r : Registry η) (raw : String) (tail : List Char)
    (places : List (List Char × List Char)) (leftmost : (TemplateCut.mk places tail).IsLeftmost)
    (params : List (Terminal η))
    (found : List.Forall₂ r.Names (places.map Prod.snd) params) (count offset : Nat) :
    r.resolvePieces raw count (TemplatePiece.cutText [] offset (TemplateCut.mk places tail).chars) =
      .ok (segmentsFrom tail count places, params) := by
  induction places generalizing params count offset with
  | nil =>
    cases found
    exact r.resolvePieces_cut_plain raw count offset leftmost.tail_plain
  | cons p places ih =>
    obtain ⟨s, name⟩ := p
    cases found with
    | cons names found =>
      obtain ⟨plain, texts⟩ := List.forall_mem_cons.mp leftmost.text_plain
      obtain ⟨closed, closes⟩ := List.forall_mem_cons.mp leftmost.name_closed
      have rest := ih ⟨texts, closes, leftmost.tail_plain⟩ _ found
      rw [chars_cons]
      exact (r.resolvePieces_cut_place_eq_ok_iff raw count offset plain closed ..).mpr
        ⟨_, _, _, names, rest (count + 1) _, rfl, rfl⟩

end TemplateCut

/-- A template is read exactly if it has a leftmost cut whose names are registered. The segments are
those of the cut, and the parameters stand for its names in order. -/
theorem Registry.template_eq_ok_iff {η : Type} (r : Registry η) (raw : String) (offset : Nat)
    (t : Template η) :
    r.template raw offset = .ok t ↔
      t.raw = raw ∧ ∃ cut : TemplateCut, cut.chars = raw.toList ∧ cut.IsLeftmost ∧
        t.segments = cut.segments ∧ List.Forall₂ r.Names (cut.places.map Prod.snd) t.params := by
  obtain ⟨raw', segments, params⟩ := t
  constructor
  · intro h
    obtain ⟨p, read, made⟩ := (bind_eq_ok_iff ..).mp h
    cases made
    exact ⟨rfl, TemplateCut.of_resolvePieces r raw raw.toList 0 offset p.1 p.2 read⟩
  · rintro ⟨rfl, cut, written, leftmost, rfl, found⟩
    have read := TemplateCut.resolvePieces_chars r raw' cut.tail cut.places leftmost _ found 0 offset
    rw [written] at read
    exact (bind_eq_ok_iff ..).mpr ⟨_, read, rfl⟩

/-! ## Refused templates -/

namespace Registry

variable {η : Type}

/-- A place that begins at an offset cannot be read: it does not end, or its name is unknown. What follows
the two characters that open it is `rest`. -/
def RefusesPlace (r : Registry η) (raw : String) (place : Nat) (rest : List Char) (e : SchemaError) :
    Prop :=
  '}' ∉ rest ∧ e = .unclosedPlace raw ∨
    ∃ name behind, rest = name ++ '}' :: behind ∧ '}' ∉ name ∧
      r.get? (String.ofList (Text.trim Unicode.isWhiteSpace name)) = none ∧
      e = .unknownName (String.ofList (Text.trim Unicode.isWhiteSpace name)) place

/-- There is a place that cannot be read, and all places before it can. -/
def Refuses (r : Registry η) (raw : String) (offset : Nat) (cs : List Char) (e : SchemaError) : Prop :=
  ∃ (cut : TemplateCut) (rest : List Char) (params : List (Terminal η)),
    cs = cut.chars ++ '$' :: '{' :: rest ∧ cut.IsLeftmost ∧
      List.Forall₂ r.Names (cut.places.map Prod.snd) params ∧
      r.RefusesPlace raw (offset + Text.width cut.chars) rest e

variable {r : Registry η} {raw : String} {offset : Nat} {e : SchemaError}

theorem RefusesPlace.refuses {s rest : List Char} (plain : IsPlain s)
    (refused : r.RefusesPlace raw (offset + Text.width s) rest e) :
    r.Refuses raw offset (s ++ '$' :: '{' :: rest) e :=
  ⟨⟨[], s⟩, rest, [], rfl, ⟨by simp, by simp, plain⟩, .nil, refused⟩

theorem Refuses.behind {s name cs : List Char} {t : Terminal η} (plain : IsPlain s) (closed : '}' ∉ name)
    (known : r.Names name t)
    (refused : r.Refuses raw (offset + Text.width (s ++ TemplateCut.placeChars name)) cs e) :
    r.Refuses raw offset (s ++ TemplateCut.placeChars name ++ cs) e := by
  obtain ⟨⟨places, tail⟩, rest, params, rfl, leftmost, found, bad⟩ := refused
  refine ⟨⟨(s, name) :: places, tail⟩, rest, t :: params, ?_, ?_, .cons known found, ?_⟩
  · rw [TemplateCut.chars_cons, List.append_assoc _ (TemplateCut.chars _)]
  · exact ⟨List.forall_mem_cons.mpr ⟨plain, leftmost.text_plain⟩,
      List.forall_mem_cons.mpr ⟨closed, leftmost.name_closed⟩, leftmost.tail_plain⟩
  · rwa [TemplateCut.chars_cons, Text.width_append _ (TemplateCut.chars _), ← Nat.add_assoc]

/-- By induction on the text left: the first place is refused, or it is known and one behind it is refused. -/
theorem refuses_of_resolvePieces (r : Registry η) (raw : String) (e : SchemaError) (cs : List Char)
    (count offset : Nat)
    (h : r.resolvePieces raw count (TemplatePiece.cutText [] offset cs) = .error e) :
    r.Refuses raw offset cs e := by
  induction hn : cs.length using Nat.strongRecOn generalizing cs count offset with
  | ind n ih =>
    rcases isPlain_or_place cs with plain | ⟨s, behind, plain, rfl⟩
    · rw [r.resolvePieces_cut_plain raw count offset plain] at h
      cases h
    rcases name_or_unclosed behind with ⟨name, rest, closed, rfl⟩ | unclosed
    · rw [TemplateCut.append_place] at h ⊢
      rcases (r.resolvePieces_cut_place_eq_error_iff raw count offset plain closed rest e).mp h with
        ⟨unknown, rfl⟩ | ⟨t, known, refused⟩
      · rw [← TemplateCut.append_place]
        exact RefusesPlace.refuses plain (.inr ⟨name, rest, rfl, closed, unknown, rfl⟩)
      · have shorter : rest.length < n := by
          simp only [List.length_append, List.length_cons] at hn
          omega
        exact (ih _ shorter rest (count + 1) _ refused rfl).behind plain closed known
    · rw [r.resolvePieces_cut_unclosed raw count offset plain unclosed] at h
      exact RefusesPlace.refuses plain (.inl ⟨unclosed, (Except.error.inj h).symm⟩)

/-- By induction on the places that can be read. -/
theorem Refuses.resolvePieces {cs : List Char} (refused : r.Refuses raw offset cs e) (count : Nat) :
    r.resolvePieces raw count (TemplatePiece.cutText [] offset cs) = .error e := by
  obtain ⟨⟨places, tail⟩, rest, params, rfl, leftmost, found, bad⟩ := refused
  induction places generalizing params count offset with
  | nil =>
    rcases bad with ⟨unclosed, rfl⟩ | ⟨name, behind, rfl, closed, unknown, rfl⟩
    · exact r.resolvePieces_cut_unclosed raw count offset leftmost.tail_plain unclosed
    · rw [TemplateCut.append_place]
      exact (r.resolvePieces_cut_place_eq_error_iff raw count offset leftmost.tail_plain closed ..).mpr
        (.inl ⟨unknown, rfl⟩)
  | cons p places ih =>
    obtain ⟨s, name⟩ := p
    cases found with
    | cons known found =>
      obtain ⟨plain, texts⟩ := List.forall_mem_cons.mp leftmost.text_plain
      obtain ⟨closed, closes⟩ := List.forall_mem_cons.mp leftmost.name_closed
      rw [TemplateCut.chars_cons, Text.width_append _ (TemplateCut.chars _), ← Nat.add_assoc] at bad
      rw [TemplateCut.chars_cons, List.append_assoc _ (TemplateCut.chars _)]
      exact (r.resolvePieces_cut_place_eq_error_iff raw count offset plain closed ..).mpr
        (.inr ⟨_, known, ih (count + 1) _ ⟨texts, closes, leftmost.tail_plain⟩ found bad⟩)

/-- A template is refused exactly if there is a place in it that cannot be read, for the first such place. -/
theorem template_eq_error_iff (r : Registry η) (raw : String) (offset : Nat) (e : SchemaError) :
    r.template raw offset = .error e ↔ r.Refuses raw offset raw.toList e := by
  unfold template
  rw [bind_eq_error_iff]
  constructor
  · rintro (refused | ⟨_, -, made⟩)
    · exact r.refuses_of_resolvePieces raw e _ 0 offset refused
    · cases made
  · exact fun refused => .inl (refused.resolvePieces 0)

end Registry

end MockSchema
