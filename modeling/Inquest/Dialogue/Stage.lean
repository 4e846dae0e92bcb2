import Inquest.Answers.Store
import Inquest.Dialogue.Hearing
import Inquest.Script.Draft
/-!
# The stage

All the parts of a conversation together: the walk through the script, the hearing, the agenda, the
events told so far and the verdicts sent to the host. The steps of the walk are here. A scene's lines
are queued when its lead-in is over, and its exit runs only when the narrator has finished with them,
so that no decision appears while the narrator speaks.
-/

namespace Inquest

structure Walk where
  script : Script
  store : AnswerStore
  suspect : String
  /-- The scene whose exit runs when the narrator has finished. -/
  awaiting : Option String := none
  closed : Bool := false

structure Stage where
  walk : Walk
  hearing : Hearing
  agenda : Agenda := .empty
  /-- The events that the host has not taken yet, in order. -/
  events : Array Event := #[]
  reported : List Verdict := []

inductive ChoiceError where
  | noPendingDecision
  | unknownOption (value : String)
  | unknownScene (scene : String)
  deriving DecidableEq, Repr

def ChoiceError.message : ChoiceError → String
  | noPendingDecision => "no decision is waiting for an answer"
  | unknownOption value => "'" ++ value ++ "' is not one of the offered options"
  | unknownScene scene => "scene not found: " ++ scene

/-- A choice that stands: the decision it settles, what the player says, the scene it leads to, and
the verdict if that is what was asked for. -/
structure Reply where
  decision : Decision
  label : String
  value : String
  next : String
  verdict : Option Verdict
  deriving DecidableEq, Repr

namespace Stage

def emit (s : Stage) (e : Effects) : Stage :=
  { s with agenda := s.agenda.scheduleAll e.timers, events := s.events ++ e.events }

@[simp] theorem walk_emit (s : Stage) (e : Effects) : (s.emit e).walk = s.walk := rfl
@[simp] theorem hearing_emit (s : Stage) (e : Effects) : (s.emit e).hearing = s.hearing := rfl
@[simp] theorem agenda_emit (s : Stage) (e : Effects) :
    (s.emit e).agenda = s.agenda.scheduleAll e.timers := rfl
@[simp] theorem events_emit (s : Stage) (e : Effects) : (s.emit e).events = s.events ++ e.events := rfl
@[simp] theorem reported_emit (s : Stage) (e : Effects) : (s.emit e).reported = s.reported := rfl

/-- Lets the narrator take a step. -/
@[inline] def onNarrator (s : Stage) (step : Narrator → Narrator × Effects) : Stage :=
  let after := step s.hearing.narrator
  { s with hearing := { s.hearing with narrator := after.1 } }.emit after.2

def enqueue (s : Stage) (lines : List String) : Stage × Nat :=
  let (narrator, effects, added) := s.hearing.narrator.enqueue lines
  (s.onNarrator fun _ => (narrator, effects), added)

def speak (s : Stage) : Stage := s.onNarrator (·.speak)

def reveal (s : Stage) : Stage :=
  let now := s.agenda.now
  s.onNarrator (·.reveal now)

/-- The pause after a line is over; tells whether the queue is drained. -/
def resume (s : Stage) : Stage × Bool :=
  let (narrator, effects, drained) := s.hearing.narrator.resume
  (s.onNarrator fun _ => (narrator, effects), drained)

def respond (s : Stage) (text : String) (now : Millis) : Stage × Line :=
  let (narrator, line) := s.hearing.narrator.respond text now
  (s.onNarrator fun _ => (narrator, .none), line)

def offer (s : Stage) (scene : String) (options : List Choice) : Stage × Nat :=
  let (hearing, effects, id) := s.hearing.offer scene options
  ({ s with hearing }.emit effects, id)

def promote (s : Stage) : Stage :=
  let (hearing, effects) := s.hearing.promote
  { s with hearing }.emit effects

/-- The grading of the marks as they are, once the answers for the suspect are there. -/
def grade? (s : Stage) : Option Report :=
  (s.walk.store.answerKey? s.walk.suspect).map (·.grade s.hearing.marks)

/-- Enters a scene: its lines follow when its lead-in is over. -/
def enter (s : Stage) (name : String) : Stage × Except ChoiceError Unit :=
  match s.walk.script.scene? name with
  | none => (s, .error (.unknownScene name))
  | some scene =>
    let s := { s with hearing := s.hearing.setScene name }
    (s.emit ⟨[.sceneEntered name], [(scene.leadIn, .narrate name)]⟩, .ok ())

def start (s : Stage) : Stage × Except ChoiceError Unit := s.enter s.walk.script.start

/-- Leaves the scene that was waiting for the narrator, if there is one, through its exit. -/
def leave (s : Stage) : Stage :=
  match s.walk.awaiting with
  | none => s
  | some name =>
    let s := { s with walk := { s.walk with awaiting := none } }
    match s.walk.script.scene? name with
    | none => s
    | some scene =>
      match scene.exit with
      | .proceed next => (s.enter next).1
      | .gate _ options => (s.offer name (options.map (·.toChoice))).1
      | .close => { s with walk := { s.walk with closed := true } }.emit ⟨[.finished], []⟩

/-- What lines are filled from: the counts at the verdict, the suspect, and the verdict. -/
def scope (s : Stage) : Scope :=
  ⟨s.hearing.accuracy?.getD {}, s.walk.suspect, s.hearing.verdict?⟩

def linesOf (s : Stage) (scene : Scene) : List String :=
  (scene.linesFor s.scope.verdict s.scope.summary).map (·.render s.scope)

/-- The lead-in of a scene is over: its lines are queued, and if it has nothing to say and nobody is
speaking, it is left at once. -/
def narrate (s : Stage) (name : String) : Stage :=
  match s.walk.script.scene? name with
  | none => s
  | some scene =>
    let lines := s.linesOf scene
    let s := ({ s with walk := { s.walk with awaiting := some name } }.enqueue lines).1
    if s.hearing.narrator.isIdle then s.leave else s

/-- Judges a choice against the decision on screen and the gate that asked for it. -/
def reply? (s : Stage) (value : String) : Except ChoiceError Reply :=
  match s.hearing.shown with
  | none => .error .noPendingDecision
  | some decision =>
    match decision.option? value with
    | none => .error (.unknownOption value)
    | some choice =>
      match s.walk.script.scene? decision.scene with
      | none => .error (.unknownScene decision.scene)
      | some scene =>
        match scene.exit.options.find? (·.value = value) with
        | none => .error (.unknownOption value)
        | some option =>
          match scene.exit with
          | .gate .verdict _ =>
            match Verdict.ofWord? value with
            | none => .error (.unknownOption value)
            | some verdict => .ok ⟨decision, choice.label, value, option.next, some verdict⟩
          | _ => .ok ⟨decision, choice.label, value, option.next, none⟩

/-- Locks the verdict in and hands it to the host. Only the first verdict counts. Without answers to
grade by, all counts are zero. -/
def deliver (s : Stage) (verdict : Verdict) : Stage :=
  if s.hearing.ruling.isSome then s
  else
    let report := s.grade?.getD {}
    { s with
      hearing := s.hearing.rule verdict report
      reported := s.reported ++ [verdict] }.emit ⟨[.verdictReported verdict], []⟩

/-- Takes the decision off the screen, says what the player says, and delivers the verdict if there
is one. -/
def accept (s : Stage) (r : Reply) : Stage :=
  let s := { s with hearing := s.hearing.take.1 }
  let (s, line) := s.respond r.label s.agenda.now
  let s := s.emit ⟨[.lineRevealed line, .decisionResolved r.decision.id r.value], []⟩
  match r.verdict with
  | some verdict => s.deliver verdict
  | none => s

/-- Applies the player's choice and enters the scene it leads to. -/
def resolve (s : Stage) (value : String) : Stage × Except ChoiceError Unit :=
  match s.reply? value with
  | .error e => (s, .error e)
  | .ok r => (s.accept r).enter r.next

def run (s : Stage) : Task → Stage
  | .reveal => s.reveal
  | .resume =>
    let (s, drained) := s.resume
    if drained then s.promote.leave else s
  | .narrate name => s.narrate name

end Stage

end Inquest
