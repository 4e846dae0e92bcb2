import Inquest.Template
import Mathlib.Data.List.Chain
/-!
# Segments and pieces

A template is kept as segments, but what it says are its pieces, the single characters and the slots.
Segments are joined when no literal is empty and none stands next to another. Every list of pieces has
exactly one list of joined segments, so joined segments can be compared piece by piece.
-/

namespace Inquest

def Template.Piece.text (scope : Scope) : Template.Piece → List Char
  | .char c => [c]
  | .slot s => (s.text scope).toList

namespace Segment

def pieces : Segment → List Template.Piece
  | literal text => text.toList.map .char
  | slot s => [.slot s]

theorem toList_text (scope : Scope) (segment : Segment) :
    (segment.text scope).toList = segment.pieces.flatMap (·.text scope) := by
  cases segment <;> simp [text, pieces, Template.Piece.text, List.flatMap_map]

def isLiteral : Segment → Bool
  | literal _ => true
  | slot _ => false

/-- No literal is empty, and no literal stands next to another. -/
structure Joined (segments : List Segment) : Prop where
  nonempty : .literal "" ∉ segments
  apart : segments.IsChain fun a b => ¬(a.isLiteral ∧ b.isLiteral)

variable {s : Slot} {text : String} {segments : List Segment}

theorem joined_nil : Joined [] := ⟨List.not_mem_nil, .nil⟩

/-- A slot may stand before anything. -/
@[simp] theorem joined_slot_cons : Joined (.slot s :: segments) ↔ Joined segments := by
  constructor
  · rintro ⟨nonempty, apart⟩
    exact ⟨fun mem => nonempty (List.mem_cons_of_mem _ mem), (List.isChain_cons.1 apart).2⟩
  · rintro ⟨nonempty, apart⟩
    exact ⟨by simpa using nonempty, List.isChain_cons.2 ⟨by simp [isLiteral], apart⟩⟩

/-- Text may stand before a slot or at the end. -/
theorem joined_literal_cons : Joined (.literal text :: segments) ↔
    text ≠ "" ∧ (∀ next ∈ segments.head?, ¬next.isLiteral) ∧ Joined segments := by
  constructor
  · rintro ⟨nonempty, apart⟩
    obtain ⟨first, rest⟩ := List.isChain_cons.1 apart
    refine ⟨?_, fun next mem text => first next mem ⟨rfl, text⟩,
      ⟨fun mem => nonempty (List.mem_cons_of_mem _ mem), rest⟩⟩
    rintro rfl
    exact nonempty List.mem_cons_self
  · rintro ⟨filled, first, nonempty, apart⟩
    refine ⟨?_, List.isChain_cons.2 ⟨fun next mem both => first next mem both.2, apart⟩⟩
    simp [filled.symm, nonempty]

end Segment

namespace Template

open Segment (Joined)

variable {s : Slot} {segments segments' : List Segment}

theorem pieces_flush (text : List Char) (segments : List Segment) :
    (flush text segments).flatMap Segment.pieces =
      text.reverse.map .char ++ segments.flatMap Segment.pieces := by
  unfold flush
  split
  · simp_all
  · simp [Segment.pieces]

theorem joined_flush (h : Joined segments) (first : ∀ next ∈ segments.head?, ¬next.isLiteral)
    (text : List Char) : Joined (flush text segments) := by
  unfold flush
  split
  · exact h
  · refine Segment.joined_literal_cons.2 ⟨?_, first, h⟩
    simp_all [String.ofList_eq_empty_iff]

/-- Nothing is lost when pieces are joined. -/
theorem pieces_join (text : List Char) (ps : List Piece) :
    (join text ps).flatMap Segment.pieces = text.reverse.map .char ++ ps := by
  induction ps generalizing text with
  | nil => simp [join, pieces_flush]
  | cons p ps ih =>
    cases p with
    | char c => simp [join, ih]
    | slot s => simp [join, pieces_flush, ih, Segment.pieces]

theorem joined_join (text : List Char) (ps : List Piece) : Joined (join text ps) := by
  induction ps generalizing text with
  | nil => exact joined_flush Segment.joined_nil (by simp) text
  | cons p ps ih =>
    cases p with
    | char c => exact ih _
    | slot s =>
      refine joined_flush (Segment.joined_slot_cons.2 (ih [])) ?_ text
      simp [Segment.isLiteral]

theorem join_chars (text cs : List Char) (ps : List Piece) :
    join text (cs.map .char ++ ps) = join (cs.reverse ++ text) ps := by
  induction cs generalizing text with
  | nil => rfl
  | cons c cs ih => simp [join, ih]

/-- The text in front of a slot, or of the end, becomes a literal of its own. -/
theorem join_pieces_of_head (first : ∀ next ∈ segments.head?, ¬next.isLiteral)
    (same : join [] (segments.flatMap Segment.pieces) = segments) (text : List Char) :
    join text (segments.flatMap Segment.pieces) = flush text segments := by
  cases segments with
  | nil => rfl
  | cons next segments =>
    cases next with
    | literal text' => exact absurd rfl (first _ rfl)
    | slot s =>
      have rest : join [] (segments.flatMap Segment.pieces) = segments := (List.cons.inj same).2
      change flush text (.slot s :: join [] (segments.flatMap Segment.pieces)) = _
      rw [rest]

/-- Joining the pieces of joined segments gives the segments back. -/
theorem join_pieces (h : Joined segments) :
    join [] (segments.flatMap Segment.pieces) = segments := by
  induction segments with
  | nil => rfl
  | cons segment segments ih =>
    cases segment with
    | slot s => simp [Segment.pieces, join, flush, ih (Segment.joined_slot_cons.1 h)]
    | literal text =>
      obtain ⟨filled, first, rest⟩ := Segment.joined_literal_cons.1 h
      -- The run goes on to the next slot or the end, since no literal follows this one.
      rw [List.flatMap_cons, Segment.pieces, join_chars, join_pieces_of_head first (ih rest)]
      simp [flush, filled]

/-- Joined segments with the same pieces are the same. -/
theorem eq_of_pieces_eq (h : Joined segments) (h' : Joined segments')
    (same : segments.flatMap Segment.pieces = segments'.flatMap Segment.pieces) :
    segments = segments' := by
  rw [← join_pieces h, same, join_pieces h']

/-- The text of a template is that of its pieces. -/
theorem toList_render (t : Template) (scope : Scope) :
    (t.render scope).toList = (t.segments.flatMap Segment.pieces).flatMap (·.text scope) := by
  rw [render, String.toList_join, List.flatMap_map, List.flatMap_assoc]
  exact List.flatMap_congr fun segment _ => segment.toList_text scope

end Template

end Inquest
