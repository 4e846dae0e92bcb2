import Inquest.Conversation.Setup
import Inquest.Proofs.Dialogue.Reply
/-!
# Moves of a stage

A host that wires the parts of a stage itself may call each of them as it likes: the walk, the hearing
with its narrator, the agenda and the answers, in any order and with any arguments. No task is run
unless the host does it.
-/

namespace Inquest

/-- What a host can do with the parts of a stage that it has wired itself. -/
inductive Move where
  | start
  | narrate (scene : String)
  | leave
  | resolve (value : String)
  | offer (scene : String) (options : List Choice)
  | promote
  | take
  | annotate (claim : ClaimId) (category : Category)
  | setScene (scene : String)
  | rule (verdict : Verdict) (report : Report)
  | enqueue (lines : List String)
  | speak
  | reveal
  | resume
  | respond (text : String) (now : Millis)
  | finishLoad (result : Except BookError Book)
  | schedule (delay : Millis) (task : Task)
  | pop (target : Millis)
  | settle (target : Millis)
  | takeEvents

namespace Stage

/-- Makes a move. A task that is popped is not run. -/
def move (s : Stage) : Move → Stage
  | .start => s.start.1
  | .narrate scene => s.narrate scene
  | .leave => s.leave
  | .resolve value => (s.resolve value).1
  | .offer scene options => (s.offer scene options).1
  | .promote => s.promote
  | .take => { s with hearing := s.hearing.take.1 }
  | .annotate claim category => { s with hearing := (s.hearing.annotate claim category).1 }
  | .setScene scene => { s with hearing := s.hearing.setScene scene }
  | .rule verdict report => { s with hearing := s.hearing.rule verdict report }
  | .enqueue lines => (s.enqueue lines).1
  | .speak => s.speak
  | .reveal => s.reveal
  | .resume => s.resume.1
  | .respond text now => (s.respond text now).1
  | .finishLoad result => { s with walk.store := s.walk.store.finish result }
  | .schedule delay task => { s with agenda := s.agenda.schedule delay task }
  | .pop target => { s with agenda := (s.agenda.popDue? target).elim s.agenda (·.2) }
  | .settle target => { s with agenda := s.agenda.settle target }
  | .takeEvents => { s with events := #[] }

def moves (s : Stage) (ms : List Move) : Stage := ms.foldl move s

@[simp] theorem moves_nil (s : Stage) : s.moves [] = s := rfl
@[simp] theorem moves_cons (s : Stage) (a : Move) (ms : List Move) :
    s.moves (a :: ms) = (s.move a).moves ms := rfl

theorem moves_append (s : Stage) (ms ms' : List Move) :
    s.moves (ms ++ ms') = (s.moves ms).moves ms' := List.foldl_append

def handed (s : Stage) : Move → List Event
  | .takeEvents => s.events.toList
  | _ => []

def taken (s : Stage) : List Move → List Event
  | [] => []
  | a :: ms => s.handed a ++ (s.move a).taken ms

/-- The events told from those that wait at first to the end of the moves, taken or not. -/
def told (s : Stage) (ms : List Move) : List Event := s.taken ms ++ (s.moves ms).events.toList

@[simp] theorem taken_nil (s : Stage) : s.taken [] = [] := rfl
@[simp] theorem taken_cons (s : Stage) (a : Move) (ms : List Move) :
    s.taken (a :: ms) = s.handed a ++ (s.move a).taken ms := rfl

theorem taken_append (s : Stage) (ms ms' : List Move) :
    s.taken (ms ++ ms') = s.taken ms ++ (s.moves ms).taken ms' := by
  induction ms generalizing s with
  | nil => rfl
  | cons a ms ih => rw [List.cons_append, taken_cons, ih, taken_cons, List.append_assoc, moves_cons]

@[simp] theorem script_enter (s : Stage) (name : String) :
    (s.enter name).1.walk.script = s.walk.script := by
  unfold enter
  split <;> rfl

@[simp] theorem script_leave (s : Stage) : s.leave.walk.script = s.walk.script := by
  unfold leave
  split
  · rfl
  · dsimp only
    split
    · rfl
    · split
      · rw [script_enter]
      · rfl
      · rfl

@[simp] theorem script_narrate (s : Stage) (name : String) :
    (s.narrate name).walk.script = s.walk.script := by
  unfold narrate
  split
  · rfl
  · dsimp only
    split
    · rw [script_leave]
      rfl
    · rfl

@[simp] theorem script_resolve (s : Stage) (value : String) :
    (s.resolve value).1.walk.script = s.walk.script := by
  unfold resolve
  split
  · rfl
  · rw [script_enter, walk_accept]

/-- No move changes the script. -/
theorem script_move (s : Stage) (a : Move) : (s.move a).walk.script = s.walk.script := by
  cases a with
  | start => exact s.script_enter _
  | narrate name => exact s.script_narrate name
  | leave => exact s.script_leave
  | resolve value => exact s.script_resolve value
  | _ => rfl

theorem script_moves (s : Stage) (ms : List Move) : (s.moves ms).walk.script = s.walk.script := by
  induction ms generalizing s with
  | nil => rfl
  | cons a ms ih => rw [moves_cons, ih, script_move]

end Stage

end Inquest
