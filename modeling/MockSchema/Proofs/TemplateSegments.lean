import Mathlib.Data.List.Chain
import MockSchema.Proofs.Composition
import MockSchema.Proofs.SchemaForm

/-!
# The segments of a template

Nothing of a written template is lost or moved when it is cut into segments. With the written places put back
for the parameters, the segments are the template as written; with the texts of drawn values put there, they are
what is generated. A template without places is given back as written, and this is what its segments make up
too. What cannot be cut is refused for the first place that is wrong (`template_splits`).
-/

namespace MockSchema

variable {η : Type}

/-- The parameter that a segment stands for; none for text. -/
def Segment.index? : Segment → Option Nat
  | .text _ => none
  | .param i => some i

/-- The text of a segment, with one text for each parameter. -/
def Segment.render (texts : List (List Char)) : Segment → List Char
  | .text s => s.toList
  | .param i => texts.getD i []

theorem Segment.fill_eq_render (values : List Value) :
    Segment.fill values = Segment.render (values.map Value.display) := by
  funext segment
  cases segment with
  | text s => rfl
  | param i => simp [fill, render]

namespace TemplateCut

/-- The text of a cut with other texts in its places. -/
def fill (cut : TemplateCut) (texts : List (List Char)) : List Char :=
  (List.zipWith (fun p text => p.1 ++ text) cut.places texts).flatten ++ cut.tail

/-- With its own places in them the cut is as it was written. -/
theorem fill_placeChars (cut : TemplateCut) :
    cut.fill ((cut.places.map Prod.snd).map placeChars) = cut.chars := by
  simp [fill, chars, List.flatMap, List.zipWith_map_right]

theorem mem_textSegments_iff {s : List Char} {segment : Segment} :
    segment ∈ textSegments s ↔ s ≠ [] ∧ segment = .text (String.ofList s) := by
  unfold textSegments
  split <;> simp_all

theorem render_textSegments (texts : List (List Char)) (s : List Char) :
    (textSegments s).flatMap (Segment.render texts) = s := by
  unfold textSegments
  split
  · next empty => simpa using empty.symm
  · simp [Segment.render]

/-- By induction on the places; those before them have used up the texts in front. -/
theorem render_segmentsFrom (tail : List Char) (places : List (List Char × List Char))
    (before texts : List (List Char)) (enough : places.length = texts.length) :
    (segmentsFrom tail before.length places).flatMap (Segment.render (before ++ texts)) =
      (TemplateCut.mk places tail).fill texts := by
  induction places generalizing before texts with
  | nil => simp [segmentsFrom, render_textSegments, fill]
  | cons p places ih =>
    obtain ⟨text, texts, rfl⟩ := List.exists_cons_of_length_eq_add_one enough.symm
    have others := ih (before ++ [text]) texts (by simpa using enough)
    simp only [List.append_assoc, List.cons_append, List.nil_append, List.length_append,
      List.length_singleton] at others
    simp only [segmentsFrom, List.flatMap_append, List.flatMap_cons, render_textSegments, others]
    simp [Segment.render, fill]

theorem render_segments (cut : TemplateCut) {texts : List (List Char)}
    (enough : texts.length = cut.places.length) :
    cut.segments.flatMap (Segment.render texts) = cut.fill texts :=
  render_segmentsFrom cut.tail cut.places [] texts enough.symm

/-- By induction on the places: the parameters are numbered from `index` on. -/
theorem filterMap_segmentsFrom (tail : List Char) (index : Nat)
    (places : List (List Char × List Char)) :
    (segmentsFrom tail index places).filterMap Segment.index? =
      List.range' index places.length := by
  have none (s : List Char) : (textSegments s).filterMap Segment.index? = [] := by
    simp only [List.filterMap_eq_nil_iff, mem_textSegments_iff]
    rintro _ ⟨-, rfl⟩
    rfl
  induction places generalizing index with
  | nil => exact none tail
  | cons p places ih =>
    rw [segmentsFrom, List.filterMap_append, none, List.nil_append, List.filterMap_cons]
    simp only [Segment.index?, ih, List.length_cons, List.range'_succ]

/-- A text segment is one of the texts of the cut, and empty texts have none. -/
theorem text_mem_segmentsFrom {tail : List Char} {index : Nat}
    {places : List (List Char × List Char)} {s : String}
    (member : .text s ∈ segmentsFrom tail index places) :
    s ≠ "" ∧ (s.toList = tail ∨ s.toList ∈ places.map Prod.fst) := by
  have text {t : List Char} (member : .text s ∈ textSegments t) : s ≠ "" ∧ s.toList = t := by
    obtain ⟨some, same⟩ := mem_textSegments_iff.mp member
    cases same
    exact ⟨fun empty => some (by simpa using empty), String.toList_ofList⟩
  induction places generalizing index with
  | nil => exact (text member).imp_right .inl
  | cons p places ih =>
    rw [segmentsFrom, List.mem_append, List.mem_cons] at member
    rcases member with first | place | others
    · exact (text first).imp_right fun same => .inr (by simp [same])
    · cases place
    · exact (ih others).imp_right (Or.imp_right (List.mem_cons_of_mem _))

end TemplateCut

/-- Of two segments that follow each other, at least one stands for a parameter. -/
def AreApart (segments : List Segment) : Prop :=
  segments.IsChain fun a b => a.index?.isSome ∨ b.index?.isSome

theorem TemplateCut.areApart_segmentsFrom (tail : List Char) (index : Nat)
    (places : List (List Char × List Char)) : AreApart (segmentsFrom tail index places) := by
  induction places generalizing index with
  | nil =>
    unfold segmentsFrom textSegments AreApart
    split <;> simp
  | cons p places ih =>
    have place : AreApart (.param index :: segmentsFrom tail (index + 1) places) :=
      List.isChain_cons.mpr ⟨fun _ _ => .inl rfl, ih (index + 1)⟩
    unfold segmentsFrom textSegments
    split
    · exact place
    · exact List.isChain_cons.mpr ⟨fun b first => .inr (by cases first; rfl), place⟩

namespace Template

variable {t : Template η} {cut : TemplateCut} {values : List Value}

theorem fill_segments (h : cut.Of t) (enough : values.length = t.params.length) :
    t.segments.flatMap (Segment.fill values) = cut.fill (values.map Value.display) := by
  rw [h.segments_eq, Segment.fill_eq_render]
  exact cut.render_segments (by rw [List.length_map, enough, h.length_eq])

/-- A template without places is given back as written, which is what its cut makes up too. -/
theorem fill_eq (h : cut.Of t) (enough : values.length = t.params.length) :
    t.fill values = String.ofList (cut.fill (values.map Value.display)) := by
  unfold Template.fill
  split
  · next none =>
    have placed := h.length_eq
    have plain : cut.places = [] := by simpa [List.isEmpty_iff.mp none] using placed
    rw [← String.ofList_toList (s := t.raw), ← h.written]
    simp [TemplateCut.chars, TemplateCut.fill, plain]
  · rw [fill_segments h enough]

/-- What a written template is read as: its texts and places in order, with nothing left out. -/
structure Splits (r : Registry η) (raw : String) (t : Template η) : Prop where
  raw_eq : t.raw = raw
  numbered : t.segments.filterMap Segment.index? = List.range t.params.length
  texts : ∀ s, .text s ∈ t.segments → s ≠ "" ∧ IsPlain s.toList
  apart : AreApart t.segments
  /-- With the written places the segments make up the template. White space around a written name does not
  count, and no name has a closing brace in it. -/
  written : ∃ names : List (List Char), List.Forall₂ r.Names names t.params ∧
    (∀ name ∈ names, '}' ∉ name) ∧
    t.segments.flatMap (Segment.render (names.map TemplateCut.placeChars)) = raw.toList
  /-- With the texts of the values drawn, from left to right, the same segments make up what is generated. -/
  generated : ∀ {σ : Type} (call : η → Gen σ Value),
    Gen.Composes ((t.params.map Terminal.handle).map call)
      (fun values => String.ofList (t.segments.flatMap (Segment.render (values.map Value.display))))
      (t.generate call)
  /-- Without parameters the template is given back as written, and its segments make up the same. -/
  plain : t.params = [] →
    t.fill [] = raw ∧ String.ofList (t.segments.flatMap (Segment.fill [])) = raw

theorem splits {r : Registry η} (h : cut.Of t)
    (found : List.Forall₂ r.Names (cut.places.map Prod.snd) t.params) : t.Splits r t.raw where
  raw_eq := rfl
  numbered := by
    rw [h.segments_eq, TemplateCut.segments, TemplateCut.filterMap_segmentsFrom, h.length_eq,
      List.range_eq_range']
  texts s member := by
    rw [h.segments_eq] at member
    obtain ⟨some, tail | text⟩ := TemplateCut.text_mem_segmentsFrom member
    · exact ⟨some, tail ▸ h.leftmost.tail_plain⟩
    · obtain ⟨p, listed, same⟩ := List.mem_map.mp text
      exact ⟨some, same ▸ h.leftmost.text_plain p listed⟩
  apart := h.segments_eq ▸ TemplateCut.areApart_segmentsFrom ..
  written := by
    refine ⟨cut.places.map Prod.snd, found, ?_, ?_⟩
    · exact List.forall_mem_map.mpr h.leftmost.name_closed
    · rw [h.segments_eq, cut.render_segments (by simp), cut.fill_placeChars, h.written]
  generated call := by
    refine (t.generate_composes call).congr fun values drawn => ?_
    have enough : values.length = t.params.length := by simpa using drawn
    rw [fill_eq h enough, ← fill_segments h enough, Segment.fill_eq_render]
  plain none := by
    have given : t.fill [] = t.raw := by
      unfold Template.fill
      rw [if_pos (List.isEmpty_iff.mpr none)]
    refine ⟨given, ?_⟩
    rw [fill_segments h (by rw [none]; rfl), ← fill_eq h (by rw [none]; rfl), given]

end Template

/-- A template is cut exactly, or refused for the first place that is wrong: one that does not end, or whose
name is unknown. -/
theorem Registry.template_splits (r : Registry η) (raw : String) (offset : Nat) :
    (∀ t, r.template raw offset = .ok t → t.Splits r raw) ∧
      ∀ e, r.template raw offset = .error e ↔ r.Refuses raw offset raw.toList e := by
  refine ⟨fun t read => ?_, r.template_eq_error_iff raw offset⟩
  obtain ⟨rfl, cut, written, leftmost, segments, found⟩ := (r.template_eq_ok_iff raw offset t).mp read
  obtain ⟨-, names⟩ := Registry.has_of_names found
  exact Template.splits ⟨written, leftmost, segments, names.trans (List.map_map ..)⟩ found

/-- A dollar sign in front of a place and a brace behind it are text. -/
example : (Registry.ofPairs [("n", 7)]).template "é$$\x7b n \x7d\x7d" 1 =
    .ok ⟨"é$$\x7b n \x7d\x7d", [.text "é$", .param 0, .text "\x7d"], [⟨"n", 7⟩]⟩ := by cbv

/-- A place that begins inside another one is part of its name. -/
example : (Registry.ofPairs [("n", 7)]).template "$\x7bn\x7dé$\x7ba$\x7bn\x7d" 1 = .error (.unknownName "a$\x7bn" 7) := by
  cbv

end MockSchema
