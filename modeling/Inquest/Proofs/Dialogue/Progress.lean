import Inquest.Proofs.Dialogue.Turn
import Inquest.Proofs.Script.Loops
/-!
# Progress of a stage

Each turn brings the current scene nearer to its exit, or leaves it. So the tasks that lie ahead
grow fewer, but where a scene goes straight on to one that comes round again.
-/

namespace Inquest

namespace Mode

/-- The most tasks that are left before the scene is left. There are none where no task is planned.
-/
def tasksLeft : Mode → Nat
  | unstarted | asking .. | closed _ => 0
  | leadIn sc _ => sc.tasks
  | typing _ _ _ rest => 2 + 2 * rest.length
  | pause _ _ rest => 1 + 2 * rest.length

/-- The most tasks that are left before the scene is left, with those of all scenes to which the
relation leads from it. -/
noncomputable def tasksAhead (s : Script) (r : Scene → Scene → Prop) (m : Mode) : Nat :=
  m.tasksLeft + (m.scene?.map (s.tasksBeyond r)).getD 0

def due? (m : Mode) : Option Millis := m.control.pending.head?.map (·.due)

/-- A bound on the tasks that are run until a time: as many as all scenes have for each millisecond
from when the next task is due, and those that lie ahead until a scene waits before its lines. -/
noncomputable def tasksBy (s : Script) (target : Millis) (m : Mode) : Nat :=
  (m.due?.elim 0 fun due => target.val + 1 - due.val) * (s.tasks + 1) +
    m.tasksAhead s s.ProceedsAtOnce

/-- No more tasks are left than a visit of the scene takes. -/
def Paced (m : Mode) : Prop := ∀ sc, m.scene? = some sc → m.tasksLeft ≤ sc.tasks

variable {m : Mode} {s : Script} {sc : Scene} {r : Scene → Scene → Prop}

/-- Tasks are left exactly while one is planned. -/
theorem tasksLeft_pos_iff : 0 < m.tasksLeft ↔ ∃ due, m.due? = some due := by
  cases m with
  | unstarted | asking | closed => simp [tasksLeft, due?, control]
  | leadIn sc due =>
    apply iff_of_true
    · simp only [tasksLeft, Scene.tasks]
      omega
    · exact ⟨due, rfl⟩
  | typing sc due line rest | pause sc due rest =>
    apply iff_of_true
    · simp only [tasksLeft]
      omega
    · exact ⟨due, rfl⟩

theorem tasksLeft_leadIn_pos (sc : Scene) (due : Millis) : 0 < (leadIn sc due).tasksLeft :=
  tasksLeft_pos_iff.2 ⟨due, rfl⟩

theorem tasksAhead_of_scene? (h : m.scene? = some sc) :
    m.tasksAhead s r = m.tasksLeft + s.tasksBeyond r sc := by
  simp [tasksAhead, h]

@[simp] theorem tasksAhead_leadIn (due : Millis) :
    (leadIn sc due).tasksAhead s r = sc.tasks + s.tasksBeyond r sc := rfl

/-- What lies ahead is never more than the tasks of all scenes. -/
theorem tasksAhead_le (paced : m.Paced) (known : ∀ sc, m.scene? = some sc → sc ∈ s.scenes)
    (once : ∀ sc, m.scene? = some sc → ¬Relation.TransGen r sc sc) :
    m.tasksAhead s r ≤ s.tasks := by
  cases hm : m.scene? with
  | none =>
    cases m with
    | unstarted => exact Nat.zero_le _
    | leadIn | typing | pause | asking | closed => cases hm
  | some sc =>
    have left : m.tasksLeft ≤ sc.tasks := paced sc hm
    have all : sc.tasks + s.tasksBeyond r sc ≤ s.tasks :=
      Script.tasks_add_tasksBeyond_le_tasks (known sc hm) (once sc hm)
    rw [tasksAhead_of_scene? hm]
    omega

/-- While the next task is due no earlier, fewer tasks ahead are fewer to run until a time. -/
theorem tasksBy_lt_of_tasksAhead_lt {m' : Mode} {due target : Millis} (hdue : m.due? = some due)
    (later : ∀ due', m'.due? = some due' → due ≤ due')
    (less : m'.tasksAhead s s.ProceedsAtOnce < m.tasksAhead s s.ProceedsAtOnce) :
    m'.tasksBy s target < m.tasksBy s target := by
  have time : (m'.due?.elim 0 fun due => target.val + 1 - due.val) ≤ target.val + 1 - due.val := by
    cases hdue' : m'.due? with
    | none => exact Nat.zero_le _
    | some due' =>
      have later : due.val ≤ due'.val := later due' hdue'
      rw [Option.elim_some]
      omega
  have rounds := Nat.mul_le_mul_right (s.tasks + 1) time
  rw [tasksBy, tasksBy, hdue, Option.elim_some]
  omega

/-- A millisecond more that has passed makes up for all tasks of all scenes. -/
theorem tasksBy_lt_of_due_lt {m' : Mode} {due due' target : Millis} (hdue : m.due? = some due)
    (hdue' : m'.due? = some due') (reached : due ≤ target) (later : due < due')
    (ahead : m'.tasksAhead s s.ProceedsAtOnce ≤ s.tasks) :
    m'.tasksBy s target < m.tasksBy s target := by
  have time : target.val + 1 - due'.val + 1 ≤ target.val + 1 - due.val := by
    rw [Millis.le_def] at reached
    rw [Millis.lt_def] at later
    omega
  have rounds := Nat.mul_le_mul_right (s.tasks + 1) time
  rw [Nat.succ_mul] at rounds
  rw [tasksBy, tasksBy, hdue, hdue', Option.elim_some, Option.elim_some]
  omega

end Mode

namespace Stage

variable {s t u : Stage} {m m' : Mode} {sc : Scene} {r : Scene → Scene → Prop}

theorem length_spoken_linesOf_le (s : Stage) (sc : Scene) :
    (Narrator.spoken (s.linesOf sc)).length ≤ sc.narration.longest := by
  have said : (s.linesOf sc).length ≤ sc.narration.longest := by
    simp only [linesOf, List.length_map]
    exact sc.length_linesFor_le _ _
  exact Nat.le_trans (List.length_filter_le _ _) said

/-- A turn brings the scene nearer to its exit, or the scene is left. -/
theorem Turn.stays_or_leaves (h : s.Turn m m' t) :
    (m'.scene? = m.scene? ∧ 0 < m'.tasksLeft ∧ m'.tasksLeft < m.tasksLeft) ∨
      ∃ sc u, s.Hushed m sc u ∧ u.Leaves sc m' t := by
  cases h with
  | @begin sc due line rest lines =>
    left
    have fits := s.length_spoken_linesOf_le sc
    rw [lines, List.length_cons] at fits
    simp only [Mode.scene?, Mode.tasksLeft, Scene.tasks, true_and]
    omega
  | reveal =>
    left
    simp only [Mode.scene?, Mode.tasksLeft, true_and]
    omega
  | goOn =>
    left
    simp only [Mode.scene?, Mode.tasksLeft, List.length_cons, true_and]
    omega
  | leave hushed leaves => exact .inr ⟨_, _, hushed, leaves⟩

/-- A scene that is left goes straight on to the lead-in of another, or rests. -/
theorem Leaves.proceeds_or_rests (h : s.Leaves sc m t) :
    (∃ sc', s.walk.script.Proceeds sc sc' ∧ m = .leadIn sc' (t.agenda.now + sc'.leadIn)) ∨
      m.scene? = some sc ∧ m.tasksLeft = 0 := by
  cases h with
  | @proceed next sc' exit found => exact .inl ⟨sc', ⟨next, exit, found⟩, rfl⟩
  | ask | close => exact .inr ⟨rfl, rfl⟩

/-- A scene that goes straight on to another leaves for it. -/
theorem Leaves.eq_of_proceeds {sc' : Scene} (h : s.Leaves sc m t)
    (next : s.walk.script.Proceeds sc sc') : m = .leadIn sc' (t.agenda.now + sc'.leadIn) := by
  obtain ⟨name, exit, found⟩ := next
  cases h with
  | @proceed name' sc'' exit' found' =>
    rw [exit] at exit'
    cases exit'
    rw [found] at found'
    cases found'
    rfl
  | ask exit' | close exit' =>
    rw [exit] at exit'
    cases exit'

/-- A scene that ends the walk leaves for nothing more. -/
theorem Leaves.eq_of_close (h : s.Leaves sc m t) (exit : sc.exit = .close) : m = .closed sc := by
  cases h with
  | close => rfl
  | proceed exit' | ask exit' =>
    rw [exit] at exit'
    cases exit'

theorem Turn.tasksLeft_pos (h : s.Turn m m' t) : 0 < m.tasksLeft := by
  cases h with
  | begin | reveal | goOn => exact Mode.tasksLeft_pos_iff.2 ⟨_, rfl⟩
  | leave hushed => cases hushed <;> exact Mode.tasksLeft_pos_iff.2 ⟨_, rfl⟩

theorem Turn.paced (h : s.Turn m m' t) (paced : m.Paced) : m'.Paced := by
  intro sc hsc
  rcases h.stays_or_leaves with ⟨same, -, less⟩ | ⟨sc', u, -, leaves⟩
  · have before : m.tasksLeft ≤ sc.tasks := paced sc (same ▸ hsc)
    omega
  · rcases leaves.proceeds_or_rests with ⟨next, -, rfl⟩ | ⟨-, rests⟩
    · cases hsc
      exact Nat.le_refl _
    · rw [rests]
      exact Nat.zero_le _

/-- A turn moves the clock to the time of its task. -/
theorem Turn.now_eq (h : s.Turn m m' t) {due : Millis} (hm : m.due? = some due) :
    t.agenda.now = max s.agenda.now due := by
  cases h with
  | begin | reveal | goOn =>
    cases hm
    rfl
  | leave hushed leaves => cases hushed <;> cases hm <;> cases leaves <;> rfl

/-- The scene after a turn is the one before it, or one to which its exit leads. -/
theorem Turn.scene_or_proceeds (h : s.Turn m m' t) :
    m'.scene? = m.scene? ∨ ∃ sc sc', m.scene? = some sc ∧ s.walk.script.Proceeds sc sc' ∧
      m' = .leadIn sc' (t.agenda.now + sc'.leadIn) := by
  rcases h.stays_or_leaves with ⟨same, -⟩ | ⟨sc, u, hushed, leaves⟩
  · exact .inl same
  · rcases leaves.proceeds_or_rests with ⟨sc', next, eq⟩ | ⟨same, -⟩
    · rw [hushed.script] at next
      exact .inr ⟨sc, sc', hushed.scene?, next, eq⟩
    · exact .inl (same.trans hushed.scene?.symm)

/-- A turn has fewer tasks ahead of it than the one before, unless it enters a scene to which the
relation does not lead. -/
theorem Turn.tasksAhead_lt (h : s.Turn m m' t)
    (once : ∀ sc, m'.scene? = some sc → ¬Relation.TransGen r sc sc) :
    m'.tasksAhead s.walk.script r < m.tasksAhead s.walk.script r ∨
      ∃ sc sc', s.walk.script.Proceeds sc sc' ∧ ¬r sc sc' ∧
        m' = .leadIn sc' (t.agenda.now + sc'.leadIn) := by
  rcases h.stays_or_leaves with ⟨same, -, less⟩ | ⟨sc, u, hushed, leaves⟩
  · left
    simp only [Mode.tasksAhead, same]
    omega
  · have some_left : 0 < m.tasksLeft := h.tasksLeft_pos
    have here : m.scene? = some sc := hushed.scene?
    rcases leaves.proceeds_or_rests with ⟨sc', next, rfl⟩ | ⟨same, rests⟩
    · rw [hushed.script] at next
      by_cases related : r sc sc'
      · left
        have known : sc' ∈ s.walk.script.scenes := (Script.mem_of_scene? next.leads.known).1
        have beyond : sc'.tasks + s.walk.script.tasksBeyond r sc' ≤
            s.walk.script.tasksBeyond r sc :=
          Script.tasks_add_tasksBeyond_le_tasksBeyond known related (once sc' rfl)
        rw [Mode.tasksAhead_leadIn, Mode.tasksAhead_of_scene? here]
        omega
      · exact .inr ⟨sc, sc', next, related, rfl⟩
    · left
      rw [Mode.tasksAhead_of_scene? here, Mode.tasksAhead_of_scene? same, rests]
      omega

end Stage

end Inquest
