import Inquest.Agenda
import Inquest.Script.Basic
/-!
# Lines, decisions, events and effects

What a conversation leaves behind: the lines that were said, the decisions that were asked for, and
the events that tell a host what to show. The effects of a step are the events that it tells and the
tasks that it plans, each with its delay.
-/

namespace Inquest

/-- Who says a line. The responder speaks only by picking an option. -/
inductive Speaker where
  | narrator
  | responder
  deriving DecidableEq, Repr

def Speaker.tag : Speaker → String
  | narrator => "narrator"
  | responder => "responder"

structure Line where
  id : Nat
  speaker : Speaker
  text : String
  createdAt : Millis
  deriving DecidableEq, Repr

/-- A question to the player, asked by the exit of a scene. -/
structure Decision where
  id : Nat
  scene : String
  options : List Choice
  deriving DecidableEq, Repr

def Decision.option? (d : Decision) (value : String) : Option Choice :=
  d.options.find? (·.value = value)

inductive Event where
  | typingStarted
  /-- The typing indicator went away; a line follows. -/
  | typingStopped
  | lineRevealed (line : Line)
  /-- The narrator has nothing more to say and the last pause is over. -/
  | queueDrained
  | sceneEntered (scene : String)
  | decisionPresented (decision : Decision)
  | decisionResolved (id : Nat) (value : String)
  | verdictReported (verdict : Verdict)
  | finished
  deriving DecidableEq, Repr

def Event.tag : Event → String
  | typingStarted => "typing_started"
  | typingStopped => "typing_stopped"
  | lineRevealed _ => "line_revealed"
  | queueDrained => "queue_drained"
  | sceneEntered _ => "scene_entered"
  | decisionPresented _ => "decision_presented"
  | decisionResolved .. => "decision_resolved"
  | verdictReported _ => "verdict_reported"
  | finished => "finished"

structure Effects where
  events : List Event := []
  timers : List (Millis × Task) := []
  deriving DecidableEq, Repr

namespace Effects

def none : Effects := {}

instance : Append Effects := ⟨fun a b => ⟨a.events ++ b.events, a.timers ++ b.timers⟩⟩

@[simp] theorem events_append (a b : Effects) : (a ++ b).events = a.events ++ b.events := rfl
@[simp] theorem timers_append (a b : Effects) : (a ++ b).timers = a.timers ++ b.timers := rfl
@[simp] theorem events_none : none.events = [] := rfl
@[simp] theorem timers_none : none.timers = [] := rfl

end Effects

end Inquest
