import Inquest.Proofs.Agenda.Clock
/-!
# The cues on an agenda

The tasks that are cues for the narrator, among those that are planned. Lead-ins planned, run or
overtaken by the clock do not touch them.
-/

namespace Inquest

/-- A task that is a cue for the narrator. -/
def Task.isCue : Task → Bool
  | reveal | resume => true
  | narrate _ => false

namespace Agenda

/-- The cues that are planned, in the order in which they fall due. -/
def cues (a : Agenda) : List Task := (a.pending.map (·.task)).filter (·.isCue)

variable {a b : Agenda} {t : Timer} {xs : List Timer} {task : Task} {target : Millis}

theorem cues_insertTimer (h : t.task.isCue = false) :
    ((insertTimer t xs).map (·.task)).filter (·.isCue) =
      (xs.map (·.task)).filter (·.isCue) := by
  induction xs with
  | nil => simp [insertTimer, h]
  | cons x xs ih =>
    unfold insertTimer
    split
    · rw [List.map_cons, List.map_cons, List.filter_cons, List.filter_cons, ih]
    · simp [h]

theorem cues_insertTimer_of_nil (h : t.task.isCue)
    (none : (xs.map (·.task)).filter (·.isCue) = []) :
    ((insertTimer t xs).map (·.task)).filter (·.isCue) = [t.task] := by
  induction xs with
  | nil => simp [insertTimer, h]
  | cons x xs ih =>
    have noCue : x.task.isCue = false := by
      have first := List.filter_eq_nil_iff.1 none x.task (by simp)
      simpa using first
    have rest : (xs.map (·.task)).filter (·.isCue) = [] := by simpa [noCue] using none
    unfold insertTimer
    split
    · simp [noCue, ih rest]
    · simp [h, noCue, rest]

/-- A lead-in that is planned is no cue. -/
theorem cues_schedule (h : task.isCue = false) (delay : Millis) :
    (a.schedule delay task).cues = a.cues := cues_insertTimer h

/-- The first cue that is planned is the only one. -/
theorem cues_schedule_of_nil (h : task.isCue) (none : a.cues = []) (delay : Millis) :
    (a.schedule delay task).cues = [task] := cues_insertTimer_of_nil h none

/-- On an agenda without cues, a cue that is planned by itself is the only one. -/
theorem cues_scheduleAll_of_nil {cue? : Option Task} {timers : List (Millis × Task)}
    (none : a.cues = []) (isCue : ∀ c ∈ cue?, c.isCue) (h : timers.map (·.2) = cue?.toList) :
    (a.scheduleAll timers).cues = cue?.toList := by
  cases cue? with
  | none =>
    rw [List.map_eq_nil_iff.1 h]
    exact none
  | some c =>
    obtain ⟨t, rfl, rfl⟩ := List.map_eq_singleton_iff.1 h
    exact cues_schedule_of_nil (isCue _ rfl) none t.1

theorem size_scheduleAll (a : Agenda) (timers : List (Millis × Task)) :
    (a.scheduleAll timers).size = a.size + timers.length := by
  induction timers generalizing a with
  | nil => rfl
  | cons timer timers ih =>
    have grown : (a.schedule timer.1 timer.2).size = a.size + 1 :=
      (perm_insertTimer _ _).length_eq
    rw [scheduleAll_cons, ih, grown, List.length_cons]
    omega

theorem cues_of_popDue? (h : a.popDue? target = some (task, b)) :
    a.cues = (if task.isCue then [task] else []) ++ b.cues := by
  obtain ⟨due, pending, -⟩ := popDue?_eq_some_iff.1 h
  rw [cues, pending, List.map_cons, List.filter_cons]
  split <;> rfl

/-- Everything that is planned comes off by the end of time. -/
theorem exists_popDue?_last (h : a.pending ≠ []) : ∃ task b, a.popDue? .last = some (task, b) := by
  obtain ⟨now, _ | ⟨t, ts⟩, sorted⟩ := a
  · exact absurd rfl h
  · exact ⟨_, _, if_pos (Millis.le_last t.due)⟩

end Agenda

end Inquest
