import Inquest.Dialogue.Stage
/-!
# Conversations

A conversation as a host sees it. The host starts it, moves its clock, passes the player's input on
and takes the events that come of it. A task that is due runs at its own due time, however far the
clock is moved.
-/

namespace Inquest

structure Conversation where
  stage : Stage
  started : Bool := false

inductive ClaimClick where
  /-- After the verdict, a claim with a source opens it. -/
  | openSource (source : String)
  /-- The highlighter was applied; this is the claim's mark afterwards. -/
  | marked (mark : Option Category)
  | ignored
  deriving DecidableEq, Repr

namespace Conversation

/-- Enters the first scene, unless that was tried before. -/
def start (c : Conversation) : Conversation × Except ChoiceError Unit :=
  if c.started then (c, .ok ())
  else
    let (stage, result) := c.stage.start
    (⟨stage, true⟩, result)

def now (c : Conversation) : Millis := c.stage.agenda.now

def nextDue? (c : Conversation) : Option Millis := c.stage.agenda.nextDue?

/-- Runs the first task if it is due at `target` or before. -/
@[inline] def step? (target : Millis) (c : Conversation) : Option Conversation :=
  match c.stage.agenda.popDue? target with
  | none => none
  | some (task, agenda) => some { c with stage := { c.stage with agenda }.run task }

/-- Runs at most `n` tasks that are due at `target` or before. -/
def run (target : Millis) : Nat → Conversation → Conversation
  | 0, c => c
  | n + 1, c => match c.step? target with
    | none => c
    | some c => run target n c

/-- Moves the clock to `target`, unless it is past it, without running a task. -/
def settle (target : Millis) (c : Conversation) : Conversation :=
  { c with stage := { c.stage with agenda := c.stage.agenda.settle target } }

/-- Runs every task that is due at `target` or before and then moves the clock to `target`. A script
that goes round without taking time would never be done; so there is nothing after `limit` tasks if
one is still due. -/
def advanceTo? (limit : Nat) (target : Millis) (c : Conversation) : Option Conversation :=
  let c := c.run target limit
  if c.nextDue?.any (· ≤ target) then none else some (c.settle target)

def advance? (limit : Nat) (delay : Millis) (c : Conversation) : Option Conversation :=
  c.advanceTo? limit (c.now + delay)

/-- Catches up with a clock that shows `reading`. -/
def sync? (limit : Nat) (reading : Millis) (c : Conversation) : Option Conversation :=
  c.advanceTo? limit reading

/-- The most tasks that one wait for idleness runs. -/
def maxSteps : Nat := 100000

/-- Runs tasks until none is planned, or until it has run `maxSteps` of them. -/
def runUntilIdle (c : Conversation) : Conversation := c.run .last maxSteps

def choose (c : Conversation) (value : String) : Conversation × Except ChoiceError Unit :=
  let (stage, result) := c.stage.resolve value
  ({ c with stage }, result)

def annotate (c : Conversation) (claim : ClaimId) (category : Category) :
    Conversation × Option Category :=
  let (hearing, mark) := c.stage.hearing.annotate claim category
  ({ c with stage := { c.stage with hearing } }, mark)

def verdict? (c : Conversation) : Option Verdict := c.stage.hearing.verdict?

/-- The truth about a claim, which stays hidden until the verdict. -/
def revealed? (c : Conversation) (claim : ClaimId) : Option AnswerEntry :=
  if c.verdict?.isSome then (c.stage.walk.store.lookup c.stage.walk.suspect claim).found? else none

/-- A click on a claim while a highlighter, or none, is selected. After the verdict it opens the
source of a claim that has one. -/
def click (c : Conversation) (claim : ClaimId) (highlighter : Option Category) :
    Conversation × ClaimClick :=
  match (c.revealed? claim).bind (·.source) with
  | some source => (c, .openSource source)
  | none =>
    match highlighter with
    | none => (c, .ignored)
    | some category =>
      let (c, mark) := c.annotate claim category
      (c, .marked mark)

def grade? (c : Conversation) : Option Report := c.stage.grade?

/-- The grading that the verdict locked in; its mistakes are the corrected sheet. -/
def sheet? (c : Conversation) : Option Report := c.stage.hearing.ruling.map (·.report)

def accuracy? (c : Conversation) : Option Tally := c.stage.hearing.accuracy?

def history (c : Conversation) : Array Line := c.stage.hearing.narrator.history

def decision? (c : Conversation) : Option Decision := c.stage.hearing.shown

def isTyping (c : Conversation) : Bool := c.stage.hearing.narrator.typing

/-- Nothing is queued, nothing is being typed, no decision waits, and something has been said. -/
def isFinished (c : Conversation) : Bool := c.stage.hearing.isFinished

def isClosed (c : Conversation) : Bool := c.stage.walk.closed

def scene? (c : Conversation) : Option String := c.stage.hearing.scene

def marks (c : Conversation) : Marks := c.stage.hearing.marks

def script (c : Conversation) : Script := c.stage.walk.script

def store (c : Conversation) : AnswerStore := c.stage.walk.store

def reported (c : Conversation) : List Verdict := c.stage.reported

def finishLoad (c : Conversation) (result : Except BookError Book) : Conversation :=
  { c with stage := { c.stage with
      walk := { c.stage.walk with store := c.stage.walk.store.finish result } } }

/-- Takes the events told since the last time. -/
def takeEvents (c : Conversation) : Conversation × Array Event :=
  ({ c with stage := { c.stage with events := #[] } }, c.stage.events)

end Conversation

end Inquest
