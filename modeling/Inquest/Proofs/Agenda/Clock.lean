import Inquest.Agenda
/-!
# The clock of an agenda

How moving the clock and taking tasks off go together. The clock may be moved on its own to any time
before which nothing is due: no later task shows it, and no task comes to wait for a time that is
past.
-/

namespace Inquest.Agenda

variable {a b : Agenda} {target early late : Millis}

/-- Nothing comes off exactly if every task waits for a later time. -/
theorem popDue?_eq_none_iff_forall : a.popDue? target = none ↔ ∀ t ∈ a.pending, target < t.due := by
  obtain ⟨now, _ | ⟨first, rest⟩, sorted⟩ := a
  · simp [popDue?]
  · have later : ∀ t ∈ rest, first.due ≤ t.due := (List.pairwise_cons.1 sorted).1
    by_cases hd : first.due ≤ target
    · refine iff_of_false (by simp [popDue?, hd]) fun h => ?_
      exact Millis.not_le.2 (h first List.mem_cons_self) hd
    · refine iff_of_true (by simp [popDue?, hd]) fun t ht => ?_
      have hfirst : first.due ≤ t.due := by
        rcases List.mem_cons.1 ht with rfl | ht
        · exact Millis.le_refl _
        · exact later t ht
      rw [Millis.le_def] at hd hfirst
      rw [Millis.lt_def]
      omega

/-- What comes off was in front and due, and the clock moves to its time unless it is past it. -/
theorem popDue?_eq_some_iff {task : Task} : a.popDue? target = some (task, b) ↔
    ∃ due, a.pending = ⟨due, task⟩ :: b.pending ∧ due ≤ target ∧ b.now = max a.now due := by
  obtain ⟨now, _ | ⟨t, ts⟩, sorted⟩ := a
  · simp [popDue?]
  · simp only [popDue?, Option.ite_none_right_eq_some, Option.some.injEq, Prod.mk.injEq,
      List.cons.injEq]
    constructor
    · rintro ⟨due, rfl, rfl⟩
      exact ⟨t.due, ⟨rfl, rfl⟩, due, rfl⟩
    · rintro ⟨due, ⟨rfl, rfl⟩, hd, now⟩
      exact ⟨hd, rfl, Agenda.ext now.symm rfl⟩

/-- What is due at a time is due at any later one. -/
theorem popDue?_of_le {task : Task} (h : early ≤ late) (hp : a.popDue? early = some (task, b)) :
    a.popDue? late = some (task, b) := by
  obtain ⟨due, pending, hd, now⟩ := popDue?_eq_some_iff.1 hp
  exact popDue?_eq_some_iff.2 ⟨due, pending, Millis.le_trans hd h, now⟩

theorem settle_settle (h : early ≤ late) : (a.settle early).settle late = a.settle late := by
  have hnow : max (max a.now early) late = max a.now late := by
    rw [Millis.le_def] at h
    ext
    simp only [Millis.val_max]
    omega
  simp only [settle, hnow]

/-- The clock does not move back. -/
theorem settle_of_le (h : target ≤ a.now) : a.settle target = a := by
  have hnow : max a.now target = a.now := Millis.max_eq_left h
  simp only [settle, hnow]

/-- No later task shows that the clock was moved before anything was due. -/
theorem popDue?_settle (h : a.popDue? early = none) :
    (a.settle early).popDue? late = a.popDue? late := by
  have quiet := popDue?_eq_none_iff_forall.1 h
  obtain ⟨now, _ | ⟨t, ts⟩, sorted⟩ := a
  · rfl
  · have hd : early < t.due := quiet t List.mem_cons_self
    have hnow : max (max now early) t.due = max now t.due := by
      rw [Millis.lt_def] at hd
      ext
      simp only [Millis.val_max]
      omega
    simp only [settle, popDue?, hnow]

/-- No task waits for a time that is past. -/
def Punctual (a : Agenda) : Prop := ∀ t ∈ a.pending, a.now ≤ t.due

theorem punctual_idle (now : Millis) : (idle now).Punctual := by
  intro t ht
  cases ht

theorem Punctual.schedule (h : a.Punctual) (delay : Millis) (task : Task) :
    (a.schedule delay task).Punctual := by
  intro t ht
  rcases mem_insertTimer.1 ht with rfl | ht
  · exact Millis.le_add a.now delay
  · exact h t ht

/-- The clock may be moved to any time before which nothing is due. -/
theorem Punctual.settle (h : a.Punctual) (quiet : a.popDue? target = none) :
    (a.settle target).Punctual := by
  intro t ht
  have hnow : a.now ≤ t.due := h t ht
  have htarget : target < t.due := popDue?_eq_none_iff_forall.1 quiet t ht
  rw [Millis.le_def] at hnow ⊢
  rw [Millis.lt_def] at htarget
  simp only [Agenda.settle, Millis.val_max]
  omega

/-- Nothing is due in the past. -/
theorem Punctual.popDue?_eq_none (h : a.Punctual) (past : target < a.now) :
    a.popDue? target = none := by
  refine popDue?_eq_none_iff_forall.2 fun t ht => ?_
  have hnow : a.now ≤ t.due := h t ht
  rw [Millis.le_def] at hnow
  rw [Millis.lt_def] at past ⊢
  omega

end Inquest.Agenda
