import Inquest.Grading
import Inquest.Verdict
import Inquest.Text.Blank
/-!
# Line templates

Narration text with slots. A slot is a name in braces, with white space around the name ignored; a
brace that is text is written twice. A text is first read into pieces, one for each character or
slot, and the pieces between two slots are then joined into one literal.
-/

namespace Inquest

/-- A value that can be spliced into a line. -/
inductive Slot where
  | correct
  | incorrect
  | total
  | suspect
  | verdict
  deriving DecidableEq, Repr

namespace Slot

def name : Slot → String
  | correct => "correct"
  | incorrect => "incorrect"
  | total => "total"
  | suspect => "suspect"
  | verdict => "verdict"

def all : List Slot := [correct, incorrect, total, suspect, verdict]

def ofName? (s : String) : Option Slot := all.find? (·.name = s)

end Slot

inductive TemplateError where
  | nestedBraces
  | unclosedBrace
  | emptyBraces
  | unmatchedClosingBrace
  | unknownSlot (name : String)
  deriving DecidableEq, Repr

def TemplateError.message : TemplateError → String
  | nestedBraces => "template parse error: nested braces are not allowed"
  | unclosedBrace => "template parse error: unclosed brace"
  | emptyBraces => "template parse error: empty braces"
  | unmatchedClosingBrace => "template parse error: unmatched closing brace"
  | unknownSlot name => "unknown slot '\x7b" ++ name ++ "\x7d'"

inductive Segment where
  | literal (text : String)
  | slot (slot : Slot)
  deriving DecidableEq, Repr

/-- A line of narration with slots. -/
structure Template where
  segments : List Segment
  deriving DecidableEq, Repr, Inhabited

namespace Template

/-- The smallest part of a template: one character of text, or a slot. -/
inductive Piece where
  | char (c : Char)
  | slot (slot : Slot)
  deriving DecidableEq, Repr

def isNameChar (c : Char) : Bool := c != '{' && c != '}'

/-- Reads a slot after its opening brace, up to and with its closing brace. The rest of the text is
shorter. -/
def readSlot (cs : List Char) :
    Except TemplateError (Slot × { rest : List Char // rest.length < cs.length }) :=
  match h : cs.dropWhile isNameChar with
  | [] => .error .unclosedBrace
  | c :: rest =>
    if c = '{' then .error .nestedBraces
    else
      let name := Text.trim (String.ofList (cs.takeWhile isNameChar))
      if name.isEmpty then .error .emptyBraces
      else match Slot.ofName? name with
        | none => .error (.unknownSlot name)
        | some slot => .ok (slot, ⟨rest, by
            have := (List.dropWhile_suffix (l := cs) isNameChar).length_le
            simp only [h, List.length_cons] at this
            exact this⟩)

/-- Reads a text into pieces; the first mistake from the left counts. -/
def pieces : List Char → Except TemplateError (List Piece)
  | [] => .ok []
  | '{' :: '{' :: cs => (pieces cs).map (.char '{' :: ·)
  | '{' :: cs => do
    let (slot, rest) ← readSlot cs
    return .slot slot :: (← pieces rest.1)
  | '}' :: '}' :: cs => (pieces cs).map (.char '}' :: ·)
  | '}' :: _ => .error .unmatchedClosingBrace
  | c :: cs => (pieces cs).map (.char c :: ·)
  termination_by cs => cs.length
  decreasing_by
    all_goals simp only [List.length_cons]
    all_goals try have := rest.2
    all_goals omega

/-- Puts the text collected so far, last character first, in front of segments, if there is any. -/
def flush (text : List Char) (segments : List Segment) : List Segment :=
  if text.isEmpty then segments else .literal (String.ofList text.reverse) :: segments

/-- Joins every run of characters into one literal; `text` holds the run so far, last character
first. -/
def join (text : List Char) : List Piece → List Segment
  | [] => flush text []
  | .char c :: ps => join (c :: text) ps
  | .slot s :: ps => flush text (.slot s :: join [] ps)

def parse (s : String) : Except TemplateError Template :=
  (pieces s.toList).map fun ps => ⟨join [] ps⟩

end Template

/-- What a template is filled from. -/
structure Scope where
  summary : Tally := {}
  suspect : String := ""
  verdict : Option Verdict := none
  deriving DecidableEq, Repr

/-- The text of a slot; a verdict not yet given has none. -/
def Slot.text (scope : Scope) : Slot → String
  | correct => Nat.repr scope.summary.correct.toNat
  | incorrect => Nat.repr scope.summary.incorrect.toNat
  | total => Nat.repr scope.summary.total.toNat
  | suspect => scope.suspect
  | verdict => (scope.verdict.map Verdict.word).getD ""

def Segment.text (scope : Scope) : Segment → String
  | literal text => text
  | slot s => s.text scope

def Template.render (t : Template) (scope : Scope) : String :=
  String.join (t.segments.map (·.text scope))

end Inquest
