import Inquest.Millis
/-!
# The agenda

Virtual time: tasks that wait for their time on one clock. Tasks come off in the order of their due
times, and tasks due at one time in the order in which they were put on. The clock moves only
forward.
-/

namespace Inquest

inductive Task where
  /-- The typing time of the line in front is over. -/
  | reveal
  /-- The pause after a line is over. -/
  | resume
  /-- The lead-in of a scene is over. -/
  | narrate (scene : String)
  deriving DecidableEq, Repr

structure Timer where
  due : Millis
  task : Task
  deriving DecidableEq, Repr

/-- A clock with the tasks that wait for it, the first due in front. -/
@[ext] structure Agenda where
  now : Millis
  pending : List Timer
  sorted : pending.Pairwise (·.due ≤ ·.due)
  deriving DecidableEq

namespace Agenda

def empty : Agenda := ⟨0, [], .nil⟩

def idle (now : Millis) : Agenda := ⟨now, [], .nil⟩

instance : Inhabited Agenda := ⟨empty⟩

/-- Puts a timer behind all that are due no later. -/
def insertTimer (t : Timer) : List Timer → List Timer
  | [] => [t]
  | x :: xs => if x.due ≤ t.due then x :: insertTimer t xs else t :: x :: xs

theorem perm_insertTimer (t : Timer) (ts : List Timer) : (insertTimer t ts).Perm (t :: ts) := by
  induction ts with
  | nil => exact .refl _
  | cons x xs ih =>
    unfold insertTimer
    split
    · exact (ih.cons x).trans (.swap t x xs)
    · exact .refl _

theorem mem_insertTimer {t x : Timer} {xs : List Timer} :
    x ∈ insertTimer t xs ↔ x = t ∨ x ∈ xs :=
  (perm_insertTimer t xs).mem_iff.trans List.mem_cons

theorem sorted_insertTimer {t : Timer} {xs : List Timer} (h : xs.Pairwise (·.due ≤ ·.due)) :
    (insertTimer t xs).Pairwise (·.due ≤ ·.due) := by
  induction xs with
  | nil => simp [insertTimer]
  | cons y ys ih =>
    have hy := List.pairwise_cons.1 h
    unfold insertTimer
    split
    · rename_i hle
      refine List.pairwise_cons.2 ⟨fun x hx => ?_, ih hy.2⟩
      rcases mem_insertTimer.1 hx with rfl | hx
      · exact hle
      · exact hy.1 x hx
    · rename_i hle
      have hlt := Millis.le_of_lt (Millis.not_le.1 hle)
      refine List.pairwise_cons.2 ⟨fun x hx => ?_, h⟩
      rcases List.mem_cons.1 hx with rfl | hx
      · exact hlt
      · exact Millis.le_trans hlt (hy.1 x hx)

/-- Plans a task for when `delay` has passed. -/
def schedule (a : Agenda) (delay : Millis) (task : Task) : Agenda :=
  ⟨a.now, insertTimer ⟨a.now + delay, task⟩ a.pending, sorted_insertTimer a.sorted⟩

def scheduleAll (a : Agenda) (timers : List (Millis × Task)) : Agenda :=
  timers.foldl (fun a t => a.schedule t.1 t.2) a

@[simp] theorem now_schedule (a : Agenda) (delay : Millis) (task : Task) :
    (a.schedule delay task).now = a.now := rfl

@[simp] theorem scheduleAll_nil (a : Agenda) : a.scheduleAll [] = a := rfl

@[simp] theorem scheduleAll_cons (a : Agenda) (t : Millis × Task) (ts : List (Millis × Task)) :
    a.scheduleAll (t :: ts) = (a.schedule t.1 t.2).scheduleAll ts := rfl

theorem pending_schedule_of_nil {a : Agenda} (h : a.pending = []) (delay : Millis) (task : Task) :
    (a.schedule delay task).pending = [⟨a.now + delay, task⟩] := by
  simp [schedule, h, insertTimer]

def nextDue? (a : Agenda) : Option Millis := a.pending.head?.map (·.due)

def size (a : Agenda) : Nat := a.pending.length

def isEmpty (a : Agenda) : Bool := a.pending.isEmpty

/-- Takes the first task if it is due at `target` or before, and moves the clock to its time unless
the clock is past it. -/
def popDue? (a : Agenda) (target : Millis) : Option (Task × Agenda) :=
  match a with
  | ⟨_, [], _⟩ => none
  | ⟨now, t :: ts, h⟩ =>
    if t.due ≤ target then some (t.task, ⟨max now t.due, ts, (List.pairwise_cons.1 h).2⟩) else none

/-- Nothing comes off exactly if nothing is due. -/
theorem popDue?_eq_none_iff {a : Agenda} {target : Millis} :
    a.popDue? target = none ↔ ¬a.nextDue?.any (· ≤ target) := by
  obtain ⟨now, _ | ⟨t, ts⟩, sorted⟩ := a
  · simp [popDue?, nextDue?]
  · simp [popDue?, nextDue?]

theorem popDue?_of_nil {a : Agenda} (h : a.pending = []) (target : Millis) :
    a.popDue? target = none := by
  obtain ⟨now, _ | _, _⟩ := a
  · rfl
  · cases h

/-- The only task comes off if it is due, and leaves nothing behind. -/
theorem popDue?_eq_some_of_singleton {a : Agenda} {t : Timer} (h : a.pending = [t])
    {target : Millis} {task : Task} {b : Agenda} :
    a.popDue? target = some (task, b) ↔
      t.due ≤ target ∧ task = t.task ∧ b = idle (max a.now t.due) := by
  obtain ⟨now, pending, sorted⟩ := a
  cases h
  by_cases hd : t.due ≤ target
  · simp [popDue?, idle, hd, eq_comm]
  · simp [popDue?, hd]

def settle (a : Agenda) (target : Millis) : Agenda := { a with now := max a.now target }

end Agenda

end Inquest
