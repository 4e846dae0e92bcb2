import Inquest.Proofs.Template.Segments
import Mathlib.Data.List.Basic
/-!
# The grammar of templates

A text is a template exactly if it falls into tokens: a character that is no brace, two braces of a kind,
or a name between braces. It does so in one way at most, since the beginning of a text tells where its
first token ends, and what it says is what its tokens stand for.
-/

namespace Inquest

theorem Slot.name_injective : Function.Injective Slot.name := by
  intro s s' same
  cases s <;> cases s' <;> simp_all [Slot.name]

theorem Slot.ofName?_eq_some {s : Slot} {name : String} :
    Slot.ofName? name = some s ↔ name = s.name := by
  constructor
  · intro found
    have same : s.name = name := by simpa using List.find?_some found
    exact same.symm
  · rintro rfl
    cases s <;> decide

namespace Template

variable {inner cs xs ys : List Char} {s : Slot} {ps : List Piece}

/-- A text has no brace exactly if a name can go on through all of it. -/
theorem forall_isNameChar_iff : (∀ c ∈ inner, isNameChar c) ↔ '{' ∉ inner ∧ '}' ∉ inner := by
  simp only [isNameChar, Bool.and_eq_true, bne_iff_ne]
  constructor
  · exact fun name => ⟨fun mem => (name _ mem).1 rfl, fun mem => (name _ mem).2 rfl⟩
  · rintro ⟨opening, closing⟩ c mem
    exact ⟨fun h => opening (h ▸ mem), fun h => closing (h ▸ mem)⟩

theorem takeWhile_name (unbraced : '{' ∉ inner ∧ '}' ∉ inner) (xs : List Char) :
    (inner ++ '}' :: xs).takeWhile isNameChar = inner := by
  rw [List.takeWhile_append_of_pos (forall_isNameChar_iff.2 unbraced)]
  simp [isNameChar]

theorem dropWhile_name (unbraced : '{' ∉ inner ∧ '}' ∉ inner) (xs : List Char) :
    (inner ++ '}' :: xs).dropWhile isNameChar = '}' :: xs := by
  rw [List.dropWhile_append_of_pos (forall_isNameChar_iff.2 unbraced)]
  simp [isNameChar]

inductive Token where
  /-- A character that is no brace stands for itself. -/
  | char (c : Char) (unbraced : c ≠ '{' ∧ c ≠ '}')
  /-- Two opening braces stand for one. -/
  | opening
  /-- Two closing braces stand for one. -/
  | closing
  /-- A name between braces, with blanks around it or not, stands for a slot. -/
  | slot (inner : List Char) (s : Slot) (unbraced : '{' ∉ inner ∧ '}' ∉ inner)
    (named : Text.trim (String.ofList inner) = s.name)

namespace Token

def written : Token → List Char
  | char c _ => [c]
  | opening => ['{', '{']
  | closing => ['}', '}']
  | slot inner _ _ _ => '{' :: inner ++ ['}']

def meaning : Token → Piece
  | char c _ => .char c
  | opening => .char '{'
  | closing => .char '}'
  | slot _ s _ _ => .slot s

variable {a b : Token} {as bs : List Token}

theorem written_ne_nil (a : Token) : a.written ≠ [] := by
  cases a <;> simp [written]

/-- Two opening braces begin no slot. -/
theorem name_ne_opening (unbraced : '{' ∉ inner ∧ '}' ∉ inner) :
    inner ++ '}' :: xs ≠ '{' :: ys := by
  intro same
  have stop := dropWhile_name unbraced xs
  rw [same] at stop
  simp [isNameChar] at stop

/-- The beginning of a text tells its first token. -/
theorem written_append_inj (h : a.written ++ xs = b.written ++ ys) : a = b ∧ xs = ys := by
  cases a <;> cases b
  case slot.slot inner s unbraced named inner' s' unbraced' named' =>
    have same : inner ++ '}' :: xs = inner' ++ '}' :: ys := by simpa [written] using h
    obtain rfl : inner = inner' := by
      rw [← takeWhile_name unbraced xs, same, takeWhile_name unbraced']
    obtain rfl := Slot.name_injective (named.symm.trans named')
    exact ⟨rfl, (List.cons.inj (List.append_cancel_left same)).2⟩
  case slot.opening inner s unbraced named =>
    exact absurd (by simpa [written] using h) (name_ne_opening unbraced)
  case opening.slot inner s unbraced named =>
    exact absurd (by simpa [written] using h.symm) (name_ne_opening unbraced)
  -- All others differ in their first or second character.
  all_goals simp [written] at h ⊢ <;> grind

/-- A text falls into tokens in one way at most. -/
theorem eq_of_written_eq (h : as.flatMap written = bs.flatMap written) : as = bs := by
  induction as generalizing bs with
  | nil =>
    cases bs with
    | nil => rfl
    | cons b bs => simp [written_ne_nil] at h
  | cons a as ih =>
    cases bs with
    | nil => simp [written_ne_nil] at h
    | cons b bs =>
      obtain ⟨rfl, rest⟩ := written_append_inj h
      rw [ih rest]

end Token

/-- A slot that is read has its name before the closing brace. -/
theorem exists_name_of_readSlot {r : {rest : List Char // rest.length < cs.length}}
    (h : readSlot cs = .ok (s, r)) : ∃ inner, ('{' ∉ inner ∧ '}' ∉ inner) ∧
      Text.trim (String.ofList inner) = s.name ∧ cs = inner ++ '}' :: r.1 := by
  revert h
  fun_cases readSlot cs with
  | case1 | case2 | case3 | case4 => nofun
  | case5 c rest stop other name filled slot found =>
    rintro ⟨⟩
    have brace : isNameChar c = false := by
      simpa [stop] using List.head?_dropWhile_not isNameChar cs
    obtain rfl : c = '}' := by simpa [isNameChar, other] using brace
    refine ⟨cs.takeWhile isNameChar, ?_, Slot.ofName?_eq_some.1 found, ?_⟩
    · rw [← forall_isNameChar_iff]
      exact List.all_eq_true.1 List.all_takeWhile
    · rw [← stop, List.takeWhile_append_dropWhile]

/-- A name before a closing brace is read as its slot. -/
theorem readSlot_name (unbraced : '{' ∉ inner ∧ '}' ∉ inner)
    (named : Text.trim (String.ofList inner) = s.name) (xs : List Char) :
    ∃ shorter, readSlot (inner ++ '}' :: xs) = .ok (s, ⟨xs, shorter⟩) := by
  have filled : s.name.isEmpty = false := by cases s <;> rfl
  unfold readSlot
  split
  · rename_i stop
    rw [dropWhile_name unbraced] at stop
    cases stop
  · rename_i c rest stop
    rw [dropWhile_name unbraced] at stop
    cases stop
    have found : Slot.ofName? s.name = some s := Slot.ofName?_eq_some.2 rfl
    refine ⟨by simp; omega, ?_⟩
    simp [takeWhile_name unbraced, named, filled, found]

/-- What follows a slot is read on its own. -/
theorem pieces_slot {r : {rest : List Char // rest.length < cs.length}}
    (single : ∀ rest, cs ≠ '{' :: rest) (read : readSlot cs = .ok (s, r)) :
    pieces ('{' :: cs) = (pieces r.1).map (.slot s :: ·) := by
  rw [pieces, read]
  · change (pieces r.1 >>= fun ps => pure (.slot s :: ps)) = _
    cases pieces r.1 <;> rfl
  · exact single

/-- A token in front of a text comes off it, whatever the text is. -/
theorem pieces_written_append (a : Token) (rest : List Char) :
    pieces (a.written ++ rest) = (pieces rest).map (a.meaning :: ·) := by
  cases a with
  | char c unbraced => simp [Token.written, Token.meaning, pieces, unbraced]
  | opening | closing => simp [Token.written, Token.meaning, pieces]
  | slot inner s unbraced named =>
    obtain ⟨shorter, read⟩ := readSlot_name unbraced named rest
    have single : ∀ cs, inner ++ '}' :: rest ≠ '{' :: cs := fun cs => Token.name_ne_opening unbraced
    simpa [Token.written, Token.meaning] using pieces_slot single read

/-- Tokens in front of a text come off it. -/
theorem pieces_flatMap_written_append (ts : List Token) (rest : List Char) :
    pieces (ts.flatMap Token.written ++ rest) = (pieces rest).map (ts.map Token.meaning ++ ·) := by
  induction ts with
  | nil =>
    change pieces rest = (pieces rest).map id
    rw [Except.map_id, id]
  | cons a ts ih =>
    rw [List.flatMap_cons, List.append_assoc, pieces_written_append, ih]
    cases pieces rest <;> rfl

/-- The text falls into tokens that stand for the pieces. -/
def Splits (cs : List Char) (ps : List Piece) : Prop :=
  ∃ ts : List Token, ts.flatMap Token.written = cs ∧ ts.map Token.meaning = ps

theorem Splits.cons (a : Token) (h : (pieces cs).map (a.meaning :: ·) = .ok ps)
    (rest : ∀ {ps}, pieces cs = .ok ps → Splits cs ps) : Splits (a.written ++ cs) ps := by
  cases read : pieces cs with
  | error e => rw [read] at h; cases h
  | ok qs =>
    rw [read] at h
    cases h
    obtain ⟨ts, rfl, rfl⟩ := rest read
    exact ⟨a :: ts, rfl, rfl⟩

/-- A text that is read is made of tokens. -/
theorem splits_of_pieces (h : pieces cs = .ok ps) : Splits cs ps := by
  fun_induction pieces cs generalizing ps with
  | case1 =>
    cases h
    exact ⟨[], rfl, rfl⟩
  | case2 cs ih => exact Splits.cons .opening h ih
  | case3 cs single ih =>
    cases read : readSlot cs with
    | error e => rw [read] at h; cases h
    | ok found =>
      obtain ⟨s, r⟩ := found
      obtain ⟨inner, unbraced, named, split⟩ := exists_name_of_readSlot read
      -- The rest behind the slot is shorter, so the induction covers it.
      rw [← pieces, pieces_slot single read] at h
      · have whole := Splits.cons (.slot inner s unbraced named) h (ih r)
        simpa [Token.written, split] using whole
      · exact single
  | case4 cs ih => exact Splits.cons .closing h ih
  | case5 => cases h
  | case6 c cs _ opening _ closing ih => exact Splits.cons (.char c ⟨opening, closing⟩) h ih

variable {x : String} {t : Template}

/-- A text made of tokens is read as what they stand for. -/
theorem parse_of_tokens (ts : List Token) (h : ts.flatMap Token.written = x.toList) :
    parse x = .ok ⟨join [] (ts.map Token.meaning)⟩ := by
  have read := pieces_flatMap_written_append ts []
  rw [List.append_nil, h] at read
  rw [parse, read, pieces]
  simp [Except.map]

/-- What a text is read as is what its tokens stand for. -/
theorem exists_tokens_of_parse (h : parse x = .ok t) :
    ∃ ts : List Token, ts.flatMap Token.written = x.toList ∧
      t.segments = join [] (ts.map Token.meaning) := by
  cases read : pieces x.toList with
  | error e => rw [parse, read] at h; cases h
  | ok ps =>
    rw [parse, read] at h
    cases h
    obtain ⟨ts, split, rfl⟩ := splits_of_pieces read
    exact ⟨ts, split, rfl⟩

/-- A text is a template exactly if it falls into tokens, it does so in one way at most, and the template
is the one whose segments are joined and say what the tokens stand for. -/
theorem tokens_of_parse (x : String) :
    ((∃ t, parse x = .ok t) ↔ ∃ ts : List Token, ts.flatMap Token.written = x.toList) ∧
    (∀ ts ts' : List Token, ts.flatMap Token.written = x.toList →
      ts'.flatMap Token.written = x.toList → ts = ts') ∧
    ∀ ts : List Token, ts.flatMap Token.written = x.toList → ∀ t, parse x = .ok t ↔
      t.segments.flatMap Segment.pieces = ts.map Token.meaning ∧ Segment.Joined t.segments := by
  refine ⟨⟨?_, ?_⟩, ?_, ?_⟩
  · rintro ⟨t, read⟩
    obtain ⟨ts, split, -⟩ := exists_tokens_of_parse read
    exact ⟨ts, split⟩
  · rintro ⟨ts, split⟩
    exact ⟨_, parse_of_tokens ts split⟩
  · exact fun ts ts' split split' => Token.eq_of_written_eq (split.trans split'.symm)
  · intro ts split t
    rw [parse_of_tokens ts split]
    constructor
    · rintro ⟨⟩
      exact ⟨pieces_join [] _, joined_join [] _⟩
    · rintro ⟨means, joined⟩
      have same := eq_of_pieces_eq joined (joined_join [] _) (means.trans (pieces_join [] _).symm)
      rw [← same]

/-- Runs of three and of five braces, with a slot between them. -/
def bracedTotal : List Token :=
  [.opening, .slot [' ', 't', 'o', 't', 'a', 'l'] .total (by decide) (by decide), .closing, .closing]

theorem tokens_of_bracedTotal :
    bracedTotal.flatMap Token.written = "\x7b\x7b\x7b total\x7d\x7d\x7d\x7d\x7d".toList ∧
    parse "\x7b\x7b\x7b total\x7d\x7d\x7d\x7d\x7d" =
      .ok ⟨[.literal "\x7b", .slot .total, .literal "\x7d\x7d"]⟩ := by
  have split : bracedTotal.flatMap Token.written =
      "\x7b\x7b\x7b total\x7d\x7d\x7d\x7d\x7d".toList := by decide
  obtain ⟨-, -, meant⟩ := tokens_of_parse "\x7b\x7b\x7b total\x7d\x7d\x7d\x7d\x7d"
  refine ⟨split, (meant _ split _).2 ⟨by decide, by decide, ?_⟩⟩
  decide

end Template

end Inquest
