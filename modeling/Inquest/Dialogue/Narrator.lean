import Inquest.Dialogue.Event
import Inquest.Pacing
/-!
# The narrator

Says queued lines one at a time: types, reveals the line, pauses, and goes on with the next. The
narrator is busy from the first keystroke of a line to the end of the pause after it, so that no
second line begins meanwhile.
-/

namespace Inquest

/-- A narrator with the lines to say and the lines said so far. Lines are numbered from 1 as they are
recorded, so the counter is always one ahead of the history. -/
structure Narrator where
  pacing : Pacing
  queue : List String := []
  history : Array Line := #[]
  /-- A line is being typed, or the pause after one is not over. -/
  busy : Bool := false
  typing : Bool := false
  nextLine : Nat := 1
  numbered : nextLine = history.size + 1 := by rfl
  deriving DecidableEq, Repr

namespace Narrator

def isIdle (n : Narrator) : Bool := !n.busy && n.queue.isEmpty

/-- Puts a line at the end of the history; the counter goes on with it. -/
def push (n : Narrator) (line : Line) : Narrator :=
  { n with
    history := n.history.push line
    nextLine := n.nextLine + 1
    numbered := by rw [n.numbered, Array.size_push] }

@[simp] theorem pacing_push (n : Narrator) (line : Line) : (n.push line).pacing = n.pacing := rfl
@[simp] theorem queue_push (n : Narrator) (line : Line) : (n.push line).queue = n.queue := rfl
@[simp] theorem history_push (n : Narrator) (line : Line) :
    (n.push line).history = n.history.push line := rfl
@[simp] theorem busy_push (n : Narrator) (line : Line) : (n.push line).busy = n.busy := rfl
@[simp] theorem typing_push (n : Narrator) (line : Line) : (n.push line).typing = n.typing := rfl
@[simp] theorem nextLine_push (n : Narrator) (line : Line) :
    (n.push line).nextLine = n.nextLine + 1 := rfl

def record (n : Narrator) (speaker : Speaker) (text : String) (now : Millis) : Narrator × Line :=
  let line := ⟨n.nextLine, speaker, text, now⟩
  (n.push line, line)

/-- Begins to type the line in front, unless a line is under way. -/
def speak (n : Narrator) : Narrator × Effects :=
  if n.busy then (n, .none)
  else match n.queue with
    | [] => (n, .none)
    | text :: _ =>
      ({ n with busy := true, typing := true },
        ⟨[.typingStarted], [(n.pacing.typingDelay text, .reveal)]⟩)

/-- The lines worth saying: all that are not blank. -/
def spoken (lines : List String) : List String := lines.filter (!Text.isBlank ·)

/-- Queues lines and begins to speak if some were worth saying; tells how many were. -/
def enqueue (n : Narrator) (lines : List String) : Narrator × Effects × Nat :=
  let added := spoken lines
  let n := { n with queue := n.queue ++ added }
  let (n, effects) := if added.isEmpty then (n, .none) else n.speak
  (n, effects, added.length)

/-- The typing time is over: the line in front is revealed. -/
def reveal (n : Narrator) (now : Millis) : Narrator × Effects :=
  let stopped := if n.typing then [Event.typingStopped] else []
  let n := { n with typing := false }
  match n.queue with
  | [] => ({ n with busy := false }, ⟨stopped, []⟩)
  | text :: rest =>
    let (n, line) := { n with queue := rest }.record .narrator text now
    (n, ⟨stopped ++ [.lineRevealed line], [(n.pacing.linePause, .resume)]⟩)

/-- The pause is over: the next line begins, or the queue is drained; tells whether it is. -/
def resume (n : Narrator) : Narrator × Effects × Bool :=
  let n := { n with busy := false }
  if n.queue.isEmpty then (n, ⟨[.queueDrained], []⟩, true)
  else
    let (n, effects) := n.speak
    (n, effects, false)

/-- Records what the player says. It never waits in the queue. -/
def respond (n : Narrator) (text : String) (now : Millis) : Narrator × Line :=
  n.record .responder text now

variable {n : Narrator} {text : String} {rest : List String}

theorem speak_of_cons (free : n.busy = false) (queue : n.queue = text :: rest) :
    n.speak = ({ n with queue := text :: rest, busy := true, typing := true },
      ⟨[.typingStarted], [(n.pacing.typingDelay text, .reveal)]⟩) := by
  simp [speak, free, queue]

theorem reveal_of_cons (queue : n.queue = text :: rest) (now : Millis) : n.reveal now =
    ({ n with queue := rest, typing := false }.push ⟨n.nextLine, .narrator, text, now⟩,
      ⟨(if n.typing then [.typingStopped] else []) ++
        [.lineRevealed ⟨n.nextLine, .narrator, text, now⟩], [(n.pacing.linePause, .resume)]⟩) := by
  simp [reveal, record, queue]

theorem resume_of_nil (empty : n.queue = []) :
    n.resume = ({ n with busy := false }, ⟨[.queueDrained], []⟩, true) := by
  simp [resume, empty]

theorem resume_of_cons (queue : n.queue = text :: rest) :
    n.resume = ({ n with queue := text :: rest, busy := true, typing := true },
      ⟨[.typingStarted], [(n.pacing.typingDelay text, .reveal)]⟩, false) := by
  simp [resume, speak, queue]

end Narrator

end Inquest
