import Inquest.Shell.Command
import Inquest.Shell.Options
/-!
# Sessions of the shell

A case played at a terminal. The narrator goes on while the player types; the prompt appears only
when nothing is about to happen, and once for everything that was shown since the last one.
-/

namespace Inquest.Shell

structure Session where
  conversation : Conversation
  fast : Bool
  /-- Something was shown since the last prompt. -/
  needsPrompt : Bool := true

/-- What an event shows to the player; some show nothing. -/
def eventLines : Event → Option (List String)
  | .typingStarted => some ["  ..."]
  | .lineRevealed line => if line.speaker = .narrator then some [lineText line] else none
  | .decisionPresented d =>
    some (d.options.zipIdx.map fun (o, i) => "  [" ++ Nat.repr (i + 1) ++ "] " ++ o.label)
  | .finished => some ["", "--- End ---", ""]
  | _ => none

namespace Session

/-- Shows the events that wait; tells whether there was anything to show. -/
def showEvents (s : Session) : Session × String × Bool :=
  let (conversation, events) := s.conversation.takeEvents
  let shown := events.toList.filterMap eventLines
  ({ s with conversation }, Text.ofLines shown.flatten, !shown.isEmpty)

/-- Lets the conversation catch up with the clock; at most `limit` tasks may fall due. -/
def catchUp (limit : Nat) (now : Millis) (s : Session) : Option Session :=
  if s.fast then some { s with conversation := s.conversation.runUntilIdle }
  else (s.conversation.advanceTo? limit now).map fun conversation => { s with conversation }

def refresh (limit : Nat) (now : Millis) (s : Session) : Option (Session × String) :=
  (s.catchUp limit now).map fun s =>
    let (s, text, shown) := s.showEvents
    ({ s with needsPrompt := s.needsPrompt || shown }, text)

/-- When the session has to be refreshed, if time alone brings something about. -/
def nextRefresh? (s : Session) : Option Millis :=
  if s.fast then none else s.conversation.nextDue?

def prompt (s : Session) : Session × String :=
  if s.nextRefresh?.isNone && s.needsPrompt then ({ s with needsPrompt := false }, "play> ")
  else (s, "")

/-- Obeys a line that the player typed; tells whether the player quits. -/
def enter (limit : Nat) (now : Millis) (line : String) (s : Session) :
    Option (Session × String × Bool) :=
  let caughtUp := if s.fast then some (s, "") else (s.catchUp limit now).map fun s =>
    let (s, text, _) := s.showEvents
    (s, text)
  caughtUp.map fun (s, text) =>
    let command := Command.read line
    let (conversation, said) := obey s.conversation command
    ({ s with conversation, needsPrompt := true }, text ++ Text.ofLines said, command = .quit)

/-- Plays lines that are all typed at the time `now`. -/
def play (limit : Nat) (now : Millis) (s : Session) : List String → Option String
  | [] => do
    let (s, news) ← s.refresh limit now
    return news ++ s.prompt.2
  | line :: lines => do
    let (s, news) ← s.refresh limit now
    let (s, prompt) := s.prompt
    let (s, said, quits) ← s.enter limit now line
    let text := news ++ prompt ++ said
    if quits then return text else return text ++ (← s.play limit now lines)

end Session

def usageLines : List String := [
  "Usage: play [--script <path>] [--answers <path>] [--pacing <path>]",
  "            [--suspect <name>] [--fast]"]

def banner (c : Conversation) : String :=
  Text.ofLines (["=== " ++ c.script.title ++ " ==="] ++
    (c.store.fallbackReason?.map fun reason =>
      "Answer key unavailable (" ++ reason ++ "); using the built-in one.").toList ++
    ["Type 'help' for commands.", ""])

def failure (out message : String) : Outcome := { exit := 1, out, err := message ++ "\n" }

/-- What the arguments lead to: an outcome at once, or a session with the text to show first. -/
def begin? (read : String → FileText) (args : List String) : Except Outcome (Session × String) :=
  match Request.read {} args with
  | .usage => .error { out := Text.ofLines usageLines }
  | .refuse argument => .error (failure (Text.ofLines usageLines) ("Unknown argument: " ++ argument))
  | .play options =>
    match (options.setup read).build with
    | .error e => .error (failure "" ("ERROR: " ++ e.message))
    | .ok c =>
      let text := banner c
      match c.start with
      | (_, .error e) => .error (failure text ("ERROR: " ++ e.message))
      | (c, .ok ()) => .ok ({ conversation := c, fast := options.fast }, text)

/-- A whole run of the shell on input that is there from the start, at the start of time. -/
def run (limit : Nat) (read : String → FileText) (args : List String) (input : String) :
    Option Outcome :=
  match begin? read args with
  | .error outcome => some outcome
  | .ok (session, text) =>
    (session.play limit 0 (Text.lines input)).map fun out => { out := text ++ out }

end Inquest.Shell
