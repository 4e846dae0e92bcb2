import Inquest.Conversation.Basic
import Inquest.Text.Quoted
/-!
# Summaries

One-line summaries of a walk and of a conversation: the name of the kind of thing, and in braces its
fields, with texts quoted.
-/

namespace Inquest

/-- A thing and its fields on one line. -/
def summaryOf (kind : String) (fields : List (String × String)) : String :=
  kind ++ " \x7b " ++ ", ".intercalate (fields.map fun f => f.1 ++ ": " ++ f.2) ++ " \x7d"

def optionalSummary : Option String → String
  | none => "None"
  | some s => "Some(" ++ Text.quoted s ++ ")"

def Walk.summary (w : Walk) : String :=
  summaryOf "Director" [
    ("title", Text.quoted w.script.title),
    ("suspect", Text.quoted w.suspect),
    ("store", w.store.status),
    ("awaiting", optionalSummary w.awaiting),
    ("closed", if w.closed then "true" else "false")]

def Conversation.summary (c : Conversation) : String :=
  summaryOf "Conversation" [
    ("now", toString c.now),
    ("scene", optionalSummary c.scene?),
    ("director", c.stage.walk.summary),
    ("pending_events", Nat.repr c.stage.events.size)]

end Inquest
