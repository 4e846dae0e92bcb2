import Inquest.Proofs.Template.Tokens
/-!
# Templates one after the other

Where one template ends another can begin: nothing before the boundary changes how the text behind it is
read, be it a template or at fault. Only text that meets text there becomes one literal.
-/

namespace Inquest

namespace Segment

/-- Segments one after the other. Text that meets text becomes one literal. -/
def fuse : List Segment → List Segment → List Segment
  | [], bs => bs
  | [.literal left], .literal right :: bs => .literal (left ++ right) :: bs
  | a :: as, bs => a :: fuse as bs

variable {as bs : List Segment}

theorem pieces_fuse (as bs : List Segment) :
    (fuse as bs).flatMap pieces = as.flatMap pieces ++ bs.flatMap pieces := by
  fun_induction fuse as bs with
  | case1 => rfl
  | case2 left right bs => simp [pieces]
  | case3 a as bs _ ih => simp [ih]

/-- Fused segments begin as the first of them do, and as the others where there are no first ones. -/
theorem not_isLiteral_head_fuse (first : ∀ next ∈ as.head?, ¬next.isLiteral)
    (last : as = [] → ∀ next ∈ bs.head?, ¬next.isLiteral) :
    ∀ next ∈ (fuse as bs).head?, ¬next.isLiteral := by
  cases as with
  | nil => exact last rfl
  | cons a as =>
    cases a with
    | literal text => exact absurd rfl (first _ rfl)
    | slot s => simp [fuse, isLiteral]

theorem joined_fuse (left : Joined as) (right : Joined bs) : Joined (fuse as bs) := by
  fun_induction fuse as bs with
  | case1 => exact right
  | case2 text text' bs =>
    obtain ⟨filled, -, -⟩ := joined_literal_cons.1 left
    obtain ⟨-, first, rest⟩ := joined_literal_cons.1 right
    exact joined_literal_cons.2 ⟨by simp [filled], first, rest⟩
  | case3 a as bs apart ih =>
    cases a with
    | slot s => exact joined_slot_cons.2 (ih (joined_slot_cons.1 left) right)
    | literal text =>
      obtain ⟨filled, first, rest⟩ := joined_literal_cons.1 left
      refine joined_literal_cons.2 ⟨filled, ?_, ih rest right⟩
      -- Text at the very end would have met the text of the others.
      refine not_isLiteral_head_fuse first fun last next mem => ?_
      cases next with
      | slot s => simp [isLiteral]
      | literal text' =>
        obtain ⟨bs, rfl⟩ := List.head?_eq_some_iff.1 mem
        exact (apart text text' bs rfl rfl last).elim

end Segment

namespace Template

def append (a b : Template) : Template := ⟨Segment.fuse a.segments b.segments⟩

/-- Pieces one after the other are joined as their segments are. -/
theorem join_append (ps qs : List Piece) :
    join [] (ps ++ qs) = Segment.fuse (join [] ps) (join [] qs) := by
  refine eq_of_pieces_eq (joined_join [] _)
    (Segment.joined_fuse (joined_join [] ps) (joined_join [] qs)) ?_
  simp [Segment.pieces_fuse, pieces_join]

theorem render_append (a b : Template) (scope : Scope) :
    (a.append b).render scope = a.render scope ++ b.render scope := by
  apply String.toList_inj.1
  simp [toList_render, append, Segment.pieces_fuse]

variable {x y : String} {a b : Template}

/-- Behind a template a text is read as it would be on its own. -/
theorem parse_append_of_parse (h : parse x = .ok a) : parse (x ++ y) = (parse y).map a.append := by
  obtain ⟨ts, split, segments⟩ := exists_tokens_of_parse h
  rw [parse, String.toList_append, ← split, pieces_flatMap_written_append, parse]
  cases pieces y.toList with
  | error e => rfl
  | ok ps => simp [Except.map, append, segments, join_append]

/-- What stands behind a template is read and said as it would be on its own. A template goes after the
first, and what it says after what the first says; a mistake is the mistake of the whole. -/
theorem parse_append (x y : String) (a : Template) (h : parse x = .ok a) :
    (∀ b, parse y = .ok b → parse (x ++ y) = .ok (a.append b) ∧
      ∀ scope, (a.append b).render scope = a.render scope ++ b.render scope) ∧
    ∀ e, parse y = .error e → parse (x ++ y) = .error e := by
  have whole : parse (x ++ y) = (parse y).map a.append := parse_append_of_parse h
  constructor
  · intro b read
    rw [whole, read]
    exact ⟨rfl, render_append a b⟩
  · intro e read
    rw [whole, read]
    rfl

/-- Text that meets text where the templates meet, and a brace behind a template that closes nothing. -/
theorem parse_append_of_text :
    parse "\x7b\x7ba" = .ok ⟨[.literal "\x7ba"]⟩ ∧
    parse "\x7d\x7d\x7btotal\x7d" = .ok ⟨[.literal "\x7d", .slot .total]⟩ ∧
    parse ("\x7b\x7ba" ++ "\x7d\x7d\x7btotal\x7d") = .ok ⟨[.literal "\x7ba\x7d", .slot .total]⟩ ∧
    parse "\x7d" = .error .unmatchedClosingBrace ∧
    parse ("\x7b\x7ba" ++ "\x7d") = .error .unmatchedClosingBrace := by
  have first : parse "\x7b\x7ba" = .ok ⟨[.literal "\x7ba"]⟩ :=
    parse_of_tokens [.opening, .char 'a' (by decide)] (by decide)
  have second : parse "\x7d\x7d\x7btotal\x7d" = .ok ⟨[.literal "\x7d", .slot .total]⟩ :=
    parse_of_tokens
      [.closing, .slot ['t', 'o', 't', 'a', 'l'] .total (by decide) (by decide)] (by decide)
  have mistake : parse "\x7d" = .error .unmatchedClosingBrace := by
    simp [parse, pieces, Except.map]
  exact ⟨first, second, ((parse_append _ _ _ first).1 _ second).1, mistake,
    (parse_append _ _ _ first).2 _ mistake⟩

end Template

end Inquest
