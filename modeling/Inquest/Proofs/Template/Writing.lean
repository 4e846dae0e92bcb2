import Inquest.Proofs.Template.Tokens
/-!
# Writing templates

A template is written with its slots as bare names between braces and every brace of its text twice. What
is written is read as the same template, and a text written so is read as itself.
-/

namespace Inquest

/-- A text with every brace written twice. -/
def Template.doubled (text : String) : String :=
  String.ofList (text.toList.flatMap fun c => if c = '{' ∨ c = '}' then [c, c] else [c])

def Segment.written : Segment → String
  | literal text => Template.doubled text
  | slot s => "\x7b" ++ s.name ++ "\x7d"

namespace Template

def written (t : Template) : String := String.join (t.segments.map Segment.written)

def Token.ofChar (c : Char) : Token :=
  if opening : c = '{' then .opening
  else if closing : c = '}' then .closing
  else .char c ⟨opening, closing⟩

theorem Token.meaning_ofChar (c : Char) : (ofChar c).meaning = .char c := by
  unfold ofChar
  split
  · simp_all [meaning]
  · split <;> simp_all [meaning]

theorem Token.written_ofChar (c : Char) :
    (ofChar c).written = if c = '{' ∨ c = '}' then [c, c] else [c] := by
  unfold ofChar
  split
  · simp_all [written]
  · split <;> simp_all [written]

def Piece.token : Piece → Token
  | .char c => .ofChar c
  | .slot s => .slot s.name.toList s (by cases s <;> decide) (by cases s <;> decide)

theorem Piece.meaning_token (p : Piece) : p.token.meaning = p := by
  cases p with
  | char c => exact Token.meaning_ofChar c
  | slot s => rfl

/-- Writing a text doubled is writing its characters as tokens. -/
theorem toList_doubled (text : String) : (doubled text).toList =
    ((text.toList.map Piece.char).map Piece.token).flatMap Token.written := by
  simp [doubled, List.flatMap_map, Piece.token, Token.written_ofChar]

theorem toList_written_segment (segment : Segment) :
    segment.written.toList = (segment.pieces.map Piece.token).flatMap Token.written := by
  cases segment with
  | literal text => exact toList_doubled text
  | slot s => simp [Segment.written, Segment.pieces, Piece.token, Token.written]

/-- Writing a template is writing its pieces as tokens. -/
theorem toList_written (t : Template) : t.written.toList =
    ((t.segments.flatMap Segment.pieces).map Piece.token).flatMap Token.written := by
  rw [written, String.toList_join, List.flatMap_map, List.map_flatMap, List.flatMap_assoc]
  exact List.flatMap_congr fun segment _ => toList_written_segment segment

theorem map_meaning_token (ps : List Piece) : (ps.map Piece.token).map Token.meaning = ps := by
  simp [Function.comp_def, Piece.meaning_token]

/-- A template whose segments are joined is read from its written form. -/
theorem parse_written_of_joined {t : Template} (h : Segment.Joined t.segments) :
    parse t.written = .ok t := by
  rw [parse_of_tokens _ (toList_written t).symm, map_meaning_token, join_pieces h]

/-- A text that is written doubled is read as its characters. -/
theorem parse_doubled (text : String) :
    parse (doubled text) = .ok ⟨join [] (text.toList.map .char)⟩ := by
  rw [parse_of_tokens _ (toList_doubled text).symm, map_meaning_token]

/-- A template whose segments are joined is read from its written form, so what is read from any text can
be written and read again. A text with its braces doubled says itself, whatever there is to fill in. -/
theorem parse_written :
    (∀ t : Template, Segment.Joined t.segments → parse t.written = .ok t) ∧
    (∀ x t, parse x = .ok t → parse t.written = .ok t) ∧
    ∀ s, ∃ t, parse (doubled s) = .ok t ∧ ∀ scope, t.render scope = s := by
  refine ⟨fun t joined => parse_written_of_joined joined, ?_, ?_⟩
  · intro x t read
    obtain ⟨ts, -, segments⟩ := exists_tokens_of_parse read
    apply parse_written_of_joined
    rw [segments]
    exact joined_join [] _
  · intro s
    refine ⟨_, parse_doubled s, fun scope => String.toList_inj.1 ?_⟩
    rw [toList_render, pieces_join]
    simp [Piece.text, List.flatMap_map]

/-- A slot between braces that are text. -/
def bracedSuspect : Template := ⟨[.literal "\x7d\x7b", .slot .suspect, .literal "\x7d"]⟩

/-- The template as an author may write it, with a blank before the name. -/
def spacedSuspect : List Token := [.closing, .opening,
  .slot [' ', 's', 'u', 's', 'p', 'e', 'c', 't'] .suspect (by decide) (by decide), .closing]

theorem parse_written_bracedSuspect :
    Segment.Joined bracedSuspect.segments ∧
    parse "\x7d\x7d\x7b\x7b\x7bsuspect\x7d\x7d\x7d" = .ok bracedSuspect ∧
    parse "\x7d\x7d\x7b\x7b\x7b suspect\x7d\x7d\x7d" = .ok bracedSuspect ∧
    parse bracedSuspect.written = .ok bracedSuspect := by
  have joined : Segment.Joined bracedSuspect.segments := ⟨by decide, by decide⟩
  have text : bracedSuspect.written = "\x7d\x7d\x7b\x7b\x7bsuspect\x7d\x7d\x7d" := by decide
  have spaced : parse "\x7d\x7d\x7b\x7b\x7b suspect\x7d\x7d\x7d" = .ok bracedSuspect :=
    parse_of_tokens spacedSuspect (by decide)
  refine ⟨joined, ?_, spaced, parse_written.2.1 _ _ spaced⟩
  rw [← text]
  exact parse_written.1 _ joined

end Template

end Inquest
