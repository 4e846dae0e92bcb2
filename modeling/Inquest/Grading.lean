import Inquest.ClaimTable
/-!
# Grading

Judges the player's marks against an answer key, claim by claim, and counts the outcomes.
-/

namespace Inquest

/-- The truth about one claim, with the evidence file that shows it, if there is one. -/
structure AnswerEntry where
  claim : ClaimId
  category : Category
  source : Option String := none
  deriving DecidableEq, Repr

abbrev AnswerKey := ClaimTable AnswerEntry

namespace AnswerKey

/-- The key of a list of entries, in which a later entry for a claim replaces an earlier one. -/
def ofEntries (es : List AnswerEntry) : AnswerKey :=
  ClaimTable.ofList (es.map fun e => (e.claim, e))

def toList (k : AnswerKey) : List AnswerEntry := k.entries.map (·.2)

end AnswerKey

structure Tally where
  correct : UInt32 := 0
  incorrect : UInt32 := 0
  total : UInt32 := 0
  deriving DecidableEq, Repr, Inhabited

namespace Tally

/-- Something was graded and nothing was wrong. -/
def allCorrect (t : Tally) : Bool := t.incorrect == 0 && t.total > 0

def count (t : Tally) (correct : Bool) : Tally :=
  if correct then { t with correct := t.correct + 1 } else { t with incorrect := t.incorrect + 1 }

def ofOutcomes (outcomes : List Bool) : Tally :=
  let t := outcomes.foldl count {}
  { t with total := t.correct + t.incorrect }

end Tally

structure ClaimGrade where
  claim : ClaimId
  expected : Category
  marked : Option Category
  correct : Bool
  deriving DecidableEq, Repr

/-- A full grading: the counts, and the outcome of every claim of the key in claim order. -/
structure Report where
  summary : Tally := {}
  claims : List ClaimGrade := []
  deriving DecidableEq, Repr, Inhabited

def Report.mistakes (r : Report) : List ClaimGrade := r.claims.filter (!·.correct)

/-- Whether a mark agrees with the truth. A claim without a mark counts as taken for true. -/
def judge (expected : Category) (marked : Option Category) : Bool :=
  match marked with
  | some category => category == expected
  | none => expected == .supported

def AnswerEntry.grade (e : AnswerEntry) (marks : Marks) : ClaimGrade :=
  let marked := marks.get? e.claim
  ⟨e.claim, e.category, marked, judge e.category marked⟩

/-- Judges every claim of the key; marks on other claims do not count. -/
def AnswerKey.grade (key : AnswerKey) (marks : Marks) : Report :=
  let claims := key.toList.map (·.grade marks)
  ⟨.ofOutcomes (claims.map (·.correct)), claims⟩

end Inquest
