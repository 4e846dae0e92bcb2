import Inquest.Dialogue.Narrator
import Mathlib.Data.List.DropRight
/-!
# Cues of a narrator

Whoever holds a narrator may give it cues as they like: queue lines, have it speak, reveal or go on,
and record what the player says, in any order and whether or not the time for it has come. No line is
lost, said twice or overtaken by another, and the history is numbered as it grows.
-/

namespace Inquest

namespace Text

/-- Trimming leaves nothing exactly of a text whose characters are all blank. -/
theorem trimChars_eq_nil_iff {cs : List Char} : trimChars cs = [] ↔ ∀ c ∈ cs, isBlankChar c := by
  rw [trimChars, List.reverse_eq_nil_iff, List.dropWhile_eq_nil_iff]
  constructor
  · intro h
    rw [← List.dropWhile_eq_nil_iff, ← List.dropWhile_idempotent, List.dropWhile_eq_nil_iff]
    intro c hc
    exact h c (List.mem_reverse.2 hc)
  · intro h c hc
    exact h c ((List.dropWhile_suffix _).subset (List.mem_reverse.1 hc))

theorem trim_eq_empty_iff {s : String} : trim s = "" ↔ isBlank s := by
  rw [isBlank, List.all_eq_true, ← trimChars_eq_nil_iff, trim, String.ofList_eq_empty_iff]

end Text

/-- An event that tells of a narrator at work. -/
def Event.isSpeech : Event → Bool
  | typingStarted | typingStopped | lineRevealed _ | queueDrained => true
  | _ => false

def narrated (ls : List Line) : List String := (ls.filter (·.speaker = .narrator)).map (·.text)

/-- What the player says in lines, and when, in order. -/
def responded (ls : List Line) : List (String × Millis) :=
  (ls.filter (·.speaker = .responder)).map fun l => (l.text, l.createdAt)

@[simp] theorem narrated_append (ls ms : List Line) :
    narrated (ls ++ ms) = narrated ls ++ narrated ms := by
  simp [narrated]

@[simp] theorem responded_append (ls ms : List Line) :
    responded (ls ++ ms) = responded ls ++ responded ms := by
  simp [responded]

namespace Narrator

inductive Cue where
  | enqueue (lines : List String)
  | speak
  | reveal (now : Millis)
  | resume
  | respond (text : String) (now : Millis)

namespace Cue

/-- The lines that a cue brings, blank ones included. -/
def lines : Cue → List String
  | enqueue lines => lines
  | _ => []

def response? : Cue → Option (String × Millis)
  | respond text now => some (text, now)
  | _ => none

end Cue

def heed (n : Narrator) : Cue → Narrator × Effects
  | .enqueue lines => ((n.enqueue lines).1, (n.enqueue lines).2.1)
  | .speak => n.speak
  | .reveal now => n.reveal now
  | .resume => (n.resume.1, n.resume.2.1)
  | .respond text now => ((n.respond text now).1, .none)

def heedAll (n : Narrator) (cs : List Cue) : Narrator := cs.foldl (fun n c => (n.heed c).1) n

@[simp] theorem heedAll_nil (n : Narrator) : n.heedAll [] = n := rfl
@[simp] theorem heedAll_cons (n : Narrator) (c : Cue) (cs : List Cue) :
    n.heedAll (c :: cs) = (n.heed c).1.heedAll cs := rfl

/-- The line that a cue adds to the history. -/
def line? (n : Narrator) : Cue → Option Line
  | .reveal now => n.queue.head?.map fun text => ⟨n.nextLine, .narrator, text, now⟩
  | .respond text now => some ⟨n.nextLine, .responder, text, now⟩
  | _ => none

/-- What comes of a cue: the narrator after it, what it tells and plans, and the line that it adds to the
history. -/
inductive Heeds (n : Narrator) : Cue → Narrator → Effects → Option Line → Prop where
  | begin {c : Cue} {text : String} {rest : List String}
      (queue : n.queue ++ spoken c.lines = text :: rest) :
    Heeds n c { n with queue := text :: rest, busy := true, typing := true }
      ⟨[.typingStarted], [(n.pacing.typingDelay text, .reveal)]⟩ none
  | wait {c : Cue} {queue : List String} (brought : n.queue ++ spoken c.lines = queue) :
    Heeds n c { n with queue } .none none
  | hush {now : Millis} (empty : n.queue = []) :
    Heeds n (.reveal now) { n with busy := false, typing := false }
      ⟨if n.typing then [.typingStopped] else [], []⟩ none
  | reveal {now : Millis} {text : String} {rest : List String} {line : Line}
      (queue : n.queue = text :: rest) (said : line = ⟨n.nextLine, .narrator, text, now⟩) :
    Heeds n (.reveal now)
      ({ n with queue := rest, typing := false }.push line)
      ⟨(if n.typing then [.typingStopped] else []) ++ [.lineRevealed line],
        [(n.pacing.linePause, .resume)]⟩ (some line)
  | drain (empty : n.queue = []) :
    Heeds n .resume { n with busy := false } ⟨[.queueDrained], []⟩ none
  | respond {text : String} {now : Millis} {line : Line}
      (said : line = ⟨n.nextLine, .responder, text, now⟩) :
    Heeds n (.respond text now) (n.push line) .none (some line)

variable {n m : Narrator} {c : Cue} {e : Effects} {said : Option Line}

theorem heeds_speak {queue : List String} (brought : n.queue ++ spoken c.lines = queue) :
    n.Heeds c { n with queue }.speak.1 { n with queue }.speak.2 none := by
  by_cases busy : n.busy
  · have eq : { n with queue }.speak = ({ n with queue }, .none) := by simp [speak, busy]
    rw [eq]
    exact .wait brought
  · cases queue with
    | nil =>
      have eq : { n with queue := [] }.speak = ({ n with queue := [] }, .none) := by simp [speak]
      rw [eq]
      exact .wait brought
    | cons text rest =>
      rw [speak_of_cons (n := { n with queue := text :: rest }) (by simpa using busy) rfl]
      exact .begin brought

theorem heeds_heed (n : Narrator) (c : Cue) :
    n.Heeds c (n.heed c).1 (n.heed c).2 (n.line? c) := by
  cases c with
  | enqueue lines =>
    simp only [heed, enqueue]
    split
    · exact .wait rfl
    · exact heeds_speak rfl
  | speak => exact heeds_speak (List.append_nil _)
  | reveal now =>
    change n.Heeds _ (n.reveal now).1 (n.reveal now).2 _
    cases queue : n.queue with
    | nil =>
      have eq : n.reveal now = ({ n with busy := false, typing := false },
          ⟨if n.typing then [.typingStopped] else [], []⟩) := by simp [Narrator.reveal, queue]
      have said : n.line? (.reveal now) = none := by simp [line?, queue]
      rw [eq, said]
      exact .hush queue
    | cons text rest =>
      have said : n.line? (.reveal now) = some ⟨n.nextLine, .narrator, text, now⟩ := by
        simp [line?, queue]
      rw [reveal_of_cons queue, said]
      exact .reveal queue rfl
  | resume =>
    change n.Heeds _ n.resume.1 n.resume.2.1 _
    cases queue : n.queue with
    | nil =>
      rw [resume_of_nil queue]
      exact .drain queue
    | cons text rest =>
      rw [resume_of_cons queue]
      exact .begin (by simp [queue, Cue.lines, spoken])
  | respond text now => exact .respond rfl

/-- A cue tells only of the narrator at work. -/
theorem Heeds.isSpeech (h : n.Heeds c m e said) {event : Event} (mem : event ∈ e.events) :
    event.isSpeech := by
  have stopped : ∀ e ∈ if n.typing then [Event.typingStopped] else [], e.isSpeech := by
    cases n.typing <;> simp [Event.isSpeech]
  cases h with
  | begin | drain =>
    rw [List.mem_singleton.1 mem]
    rfl
  | wait | respond => cases mem
  | hush => exact stopped event mem
  | reveal =>
    rcases List.mem_append.1 mem with mem | mem
    · exact stopped event mem
    · rw [List.mem_singleton.1 mem]
      rfl

/-- A cue adds its line to the history, if it has one, and nothing else. -/
theorem Heeds.history (h : n.Heeds c m e said) :
    m.history.toList = n.history.toList ++ said.toList := by
  cases h <;> simp

/-- What the narrator says by a cue comes from the front of the queue, and what the cue brings goes to
its end. -/
theorem Heeds.narrated_append_queue (h : n.Heeds c m e said) :
    narrated said.toList ++ m.queue = n.queue ++ spoken c.lines := by
  cases h with
  | begin brought | wait brought => simp [narrated, brought]
  | hush empty | drain empty => simp [narrated, Cue.lines, spoken]
  | reveal queue line => simp [narrated, Cue.lines, spoken, queue, line]
  | respond line => simp [narrated, Cue.lines, spoken, line]

/-- The number that comes back when lines are queued is that of the lines by which the queue has grown. -/
theorem length_queue_enqueue (n : Narrator) (lines : List String) :
    (n.enqueue lines).1.queue.length = n.queue.length + (n.enqueue lines).2.2 := by
  have queue := (n.heeds_heed (.enqueue lines)).narrated_append_queue
  have count : (n.enqueue lines).2.2 = (spoken lines).length := rfl
  rw [count]
  simpa [narrated, line?, heed, Cue.lines] using congrArg List.length queue

/-- The player says by a cue what the cue records. -/
theorem responded_line? (n : Narrator) (c : Cue) :
    responded (n.line? c).toList = c.response?.toList := by
  cases c with
  | reveal now => cases hq : n.queue <;> simp [line?, hq, responded, Cue.response?]
  | enqueue | speak | resume | respond => simp [line?, responded, Cue.response?]

/-- The line of a cue has the number that the counter shows. -/
theorem id_of_mem_line? {c : Cue} {l : Line} (h : l ∈ n.line? c) : l.id = n.nextLine := by
  cases c with
  | reveal now =>
    obtain ⟨text, -, rfl⟩ := Option.map_eq_some_iff.1 h
    rfl
  | respond text now =>
    cases h
    rfl
  | enqueue | speak | resume => cases h

/-- Whatever cues it is given, a narrator has said what was worth saying of the lines brought to it,
less what is still in its queue, in the order in which they came. -/
theorem narrated_append_queue_heedAll (n : Narrator) (cs : List Cue) :
    narrated (n.heedAll cs).history.toList ++ (n.heedAll cs).queue =
      narrated n.history.toList ++ n.queue ++ spoken (cs.flatMap Cue.lines) := by
  induction cs generalizing n with
  | nil => simp [spoken]
  | cons c cs ih =>
    have heeds := n.heeds_heed c
    rw [heedAll_cons, ih, heeds.history, narrated_append, List.append_assoc (narrated _),
      heeds.narrated_append_queue]
    simp [spoken]

/-- The player's side of the history is what the cues have recorded. -/
theorem responded_heedAll (n : Narrator) (cs : List Cue) :
    responded (n.heedAll cs).history.toList =
      responded n.history.toList ++ cs.filterMap Cue.response? := by
  induction cs generalizing n with
  | nil => simp
  | cons c cs ih =>
    rw [heedAll_cons, ih, (n.heeds_heed c).history, responded_append, responded_line?,
      List.filterMap_cons]
    cases c.response? <;> simp

/-- A history numbered from 1 stays so. -/
theorem ids_heedAll (h : n.history.toList.map (·.id) = List.range' 1 n.history.size)
    (cs : List Cue) :
    (n.heedAll cs).history.toList.map (·.id) = List.range' 1 (n.heedAll cs).history.size := by
  induction cs generalizing n with
  | nil => exact h
  | cons c cs ih =>
    apply ih
    have grown := (n.heeds_heed c).history
    have size : (n.heed c).1.history.size = n.history.size + (n.line? c).toList.length := by
      rw [← Array.length_toList, grown, List.length_append, Array.length_toList]
    rw [grown, size, List.map_append, h]
    cases hl : n.line? c with
    | none => simp
    | some l => simp [List.range'_concat, id_of_mem_line? hl, n.numbered, Nat.add_comm]

/-- Whatever cues a new narrator is given, in whatever order, no line is lost, doubled or moved: what
it has said, with what is still in its queue behind it, is all that was brought to it and that trimming
does not make empty, in order. The player's lines are those recorded, in order, and the lines of the
history are numbered from 1. -/
theorem record_of_cues (pacing : Pacing) (cs : List Cue) :
    let n := ({ pacing } : Narrator).heedAll cs
    narrated n.history.toList ++ n.queue =
      (cs.flatMap Cue.lines).filter (fun line => Text.trim line ≠ "") ∧
    responded n.history.toList = cs.filterMap Cue.response? ∧
    n.history.toList.map (·.id) = List.range' 1 n.history.size := by
  intro n
  have worth : ∀ lines, spoken lines = lines.filter (fun line => Text.trim line ≠ "") := by
    intro lines
    refine List.filter_congr fun line _ => ?_
    simp [Text.trim_eq_empty_iff]
  refine ⟨?_, ?_, ids_heedAll rfl cs⟩
  · rw [← worth]
    exact narrated_append_queue_heedAll _ cs
  · exact responded_heedAll _ cs

end Narrator

end Inquest
