import Inquest.Dialogue.Narrator
/-!
# The hearing

The player's side of a conversation: the decision on screen, one held back while the narrator
speaks, the marks, the current scene, and the ruling once there is one.
-/

namespace Inquest

/-- What the verdict locks in: the verdict, and the grading at that moment. -/
structure Ruling where
  verdict : Verdict
  report : Report
  deriving DecidableEq, Repr

structure Hearing where
  narrator : Narrator
  shown : Option Decision := none
  /-- A decision that waits until the narrator is idle and no other is on screen. -/
  held : Option Decision := none
  marks : Marks := .empty
  scene : Option String := none
  ruling : Option Ruling := none
  nextDecision : Nat := 1
  deriving DecidableEq

namespace Hearing

def opening (pacing : Pacing) : Hearing := { narrator := { pacing } }

/-- Asks for a decision, now or as soon as there is room for it; gives its number. While one is
held back no other is taken, and the answer is the number of that one. -/
def offer (h : Hearing) (scene : String) (options : List Choice) : Hearing × Effects × Nat :=
  match h.held with
  | some d => (h, .none, d.id)
  | none =>
    let d := ⟨h.nextDecision, scene, options⟩
    let h := { h with nextDecision := h.nextDecision + 1 }
    if h.narrator.isIdle && h.shown.isNone then
      ({ h with shown := some d }, ⟨[.decisionPresented d], []⟩, d.id)
    else ({ h with held := some d }, .none, d.id)

/-- Shows the decision that was held back, if there is room for it. -/
def promote (h : Hearing) : Hearing × Effects :=
  if h.shown.isSome || !h.narrator.isIdle then (h, .none)
  else match h.held with
    | none => (h, .none)
    | some d => ({ h with shown := some d, held := none }, ⟨[.decisionPresented d], []⟩)

def take (h : Hearing) : Hearing × Option Decision := ({ h with shown := none }, h.shown)

def annotate (h : Hearing) (claim : ClaimId) (category : Category) : Hearing × Option Category :=
  let (marks, mark) := h.marks.toggle claim category
  ({ h with marks }, mark)

def setScene (h : Hearing) (scene : String) : Hearing := { h with scene := some scene }

def rule (h : Hearing) (verdict : Verdict) (report : Report) : Hearing :=
  { h with ruling := some ⟨verdict, report⟩ }

def verdict? (h : Hearing) : Option Verdict := h.ruling.map (·.verdict)

def accuracy? (h : Hearing) : Option Tally := h.ruling.map (·.report.summary)

def hasDecision (h : Hearing) : Bool := h.shown.isSome || h.held.isSome

/-- Nothing is queued or being typed, no decision waits, and something has been said. -/
def isFinished (h : Hearing) : Bool :=
  h.narrator.queue.isEmpty && !h.narrator.typing && !h.hasDecision && !h.narrator.history.isEmpty

end Hearing

end Inquest
