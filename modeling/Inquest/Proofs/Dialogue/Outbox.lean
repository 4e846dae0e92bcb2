import Inquest.Proofs.Dialogue.Reply
/-!
# The outbox of a dialogue

The events that the host has not taken wait on the stage. A step of a dialogue puts its events behind those
that wait and never looks at them. So events that wait in front stay there, and the step is otherwise the
same without them.
-/

namespace Inquest.Stage

/-- The stage with events that were told earlier and still wait. -/
def preceded (earlier : List Event) (s : Stage) : Stage :=
  { s with events := earlier.toArray ++ s.events }

variable {earlier : List Event} {s : Stage}

@[simp] theorem walk_preceded : (s.preceded earlier).walk = s.walk := rfl
@[simp] theorem hearing_preceded : (s.preceded earlier).hearing = s.hearing := rfl

@[simp] theorem toList_events_preceded :
    (s.preceded earlier).events.toList = earlier ++ s.events.toList := by
  simp [preceded]

@[simp] theorem preceded_nil : s.preceded [] = s := by
  simp [preceded]

@[simp] theorem preceded_preceded (before : List Event) :
    (s.preceded earlier).preceded before = s.preceded (before ++ earlier) := by
  have events : before.toArray ++ (earlier.toArray ++ s.events) = (before ++ earlier).toArray ++ s.events := by
    rw [← Array.toList_inj]
    simp
  simp only [preceded, events]

/-- New events go behind those that wait. -/
theorem emit_preceded (e : Effects) : (s.preceded earlier).emit e = (s.emit e).preceded earlier := by
  have events : earlier.toArray ++ s.events ++ e.events = earlier.toArray ++ (s.events ++ e.events) := by
    rw [← Array.toList_inj]
    simp
  simp only [preceded, emit, events]

theorem onNarrator_preceded (step : Narrator → Narrator × Effects) :
    (s.preceded earlier).onNarrator step = (s.onNarrator step).preceded earlier :=
  emit_preceded (s := { s with hearing.narrator := (step s.hearing.narrator).1 }) _

theorem enqueue_preceded (lines : List String) : (s.preceded earlier).enqueue lines =
    ((s.enqueue lines).1.preceded earlier, (s.enqueue lines).2) :=
  congrArg (·, (s.hearing.narrator.enqueue lines).2.2) (onNarrator_preceded _)

theorem resume_preceded :
    (s.preceded earlier).resume = (s.resume.1.preceded earlier, s.resume.2) :=
  congrArg (·, s.hearing.narrator.resume.2.2) (onNarrator_preceded _)

theorem offer_preceded (scene : String) (options : List Choice) :
    ((s.preceded earlier).offer scene options).1 = (s.offer scene options).1.preceded earlier :=
  emit_preceded (s := { s with hearing := (s.hearing.offer scene options).1 }) _

theorem promote_preceded : (s.preceded earlier).promote = s.promote.preceded earlier :=
  emit_preceded (s := { s with hearing := s.hearing.promote.1 }) _

theorem enter_preceded (name : String) : (s.preceded earlier).enter name =
    ((s.enter name).1.preceded earlier, (s.enter name).2) := by
  simp only [enter, walk_preceded]
  cases s.walk.script.scene? name with
  | none => rfl
  | some scene =>
    exact congrArg (·, Except.ok ())
      (emit_preceded (s := { s with hearing := s.hearing.setScene name }) _)

theorem leave_preceded : (s.preceded earlier).leave = s.leave.preceded earlier := by
  simp only [leave, walk_preceded]
  cases s.walk.awaiting with
  | none => rfl
  | some name =>
    let left : Stage := { s with walk.awaiting := none }
    dsimp only
    cases s.walk.script.scene? name with
    | none => rfl
    | some scene =>
      dsimp only
      cases scene.exit with
      | proceed next => exact congrArg Prod.fst (enter_preceded (s := left) next)
      | gate _ options => exact offer_preceded (s := left) name _
      | close => exact emit_preceded (s := { left with walk.closed := true }) _

theorem narrate_preceded (name : String) :
    (s.preceded earlier).narrate name = (s.narrate name).preceded earlier := by
  simp only [narrate, walk_preceded]
  cases s.walk.script.scene? name with
  | none => rfl
  | some scene =>
    let before : Stage := { s with walk.awaiting := some name }
    change (if ((before.preceded earlier).enqueue (s.linesOf scene)).1.hearing.narrator.isIdle then
        ((before.preceded earlier).enqueue (s.linesOf scene)).1.leave
      else ((before.preceded earlier).enqueue (s.linesOf scene)).1) =
      (if (before.enqueue (s.linesOf scene)).1.hearing.narrator.isIdle then
        (before.enqueue (s.linesOf scene)).1.leave
      else (before.enqueue (s.linesOf scene)).1).preceded earlier
    rw [enqueue_preceded, leave_preceded, hearing_preceded]
    split <;> rfl

/-- A task that runs puts its events behind those that wait. -/
theorem run_preceded (task : Task) : (s.preceded earlier).run task = (s.run task).preceded earlier := by
  cases task with
  | reveal => exact onNarrator_preceded (·.reveal s.agenda.now)
  | resume =>
    change (if (s.preceded earlier).resume.2 then (s.preceded earlier).resume.1.promote.leave
      else (s.preceded earlier).resume.1) =
      (if s.resume.2 then s.resume.1.promote.leave else s.resume.1).preceded earlier
    rw [resume_preceded, promote_preceded, leave_preceded]
    split <;> rfl
  | narrate name => exact narrate_preceded name

theorem deliver_preceded (verdict : Verdict) :
    (s.preceded earlier).deliver verdict = (s.deliver verdict).preceded earlier := by
  unfold deliver
  rw [hearing_preceded]
  split
  · rfl
  · exact emit_preceded (s := { s with
      hearing := s.hearing.rule verdict (s.grade?.getD {})
      reported := s.reported ++ [verdict] }) _

theorem answered_preceded (r : Reply) :
    (s.preceded earlier).answered r = (s.answered r).preceded earlier :=
  emit_preceded (s := { s with
    hearing.shown := none
    hearing.narrator := s.hearing.narrator.push (s.replyLine r) }) _

theorem accept_preceded (r : Reply) : (s.preceded earlier).accept r = (s.accept r).preceded earlier := by
  rw [accept_eq, accept_eq, answered_preceded]
  cases r.verdict with
  | none => rfl
  | some verdict => exact deliver_preceded verdict

/-- A choice puts its events behind those that wait, and is judged without them. -/
theorem resolve_preceded (value : String) : (s.preceded earlier).resolve value =
    ((s.resolve value).1.preceded earlier, (s.resolve value).2) := by
  have judged : (s.preceded earlier).reply? value = s.reply? value := rfl
  simp only [resolve, judged]
  cases s.reply? value with
  | error e => rfl
  | ok r =>
    dsimp only
    rw [accept_preceded, enter_preceded]

end Inquest.Stage
