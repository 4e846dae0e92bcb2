import Inquest.Proofs.Conversation.Progress
/-!
# Skipping ahead

A host that has nothing to wait for may move the clock straight to when the next task is due, and do
so again until nothing is planned. The tasks that it runs are those of a wait for idleness, each at
the same time, so it comes to the same conversation; and so does one move to the end of time, but for
the clock.
-/

namespace Inquest.Conversation

/-- Moves the clock to when the next task is due, again and again until none is planned. There is
nothing if one is still planned after `n` moves, or if a move does not return. -/
def skip? (limit : Nat) : Nat → Conversation → Option Conversation
  | 0, c => if c.nextDue?.isSome then none else some c
  | n + 1, c => match c.nextDue? with
    | none => some c
    | some due => (c.advanceTo? limit due).bind (skip? limit n)

variable {c c' d : Conversation} {limit m n : Nat} {early late target due : Millis}

theorem step?_last_eq_none_iff : c.step? .last = none ↔ c.nextDue? = none := by
  rw [step?_eq_none_iff, nextDue?_any_last]
  simp

/-- A run after which nothing is due goes no further with room for more tasks. -/
theorem run_of_quiet (quiet : (c.run target m).step? target = none) (h : m ≤ n) :
    c.run target n = c.run target m := by
  obtain ⟨more, rfl⟩ := Nat.exists_eq_add_of_le h
  rw [run_add, run_of_step?_eq_none quiet]

/-- Runs after which nothing is due have come to the same end. -/
theorem run_eq_of_quiet (hm : (c.run target m).step? target = none)
    (hn : (c.run target n).step? target = none) : c.run target m = c.run target n := by
  rcases Nat.le_total m n with h | h
  · exact (run_of_quiet hm h).symm
  · exact run_of_quiet hn h

/-- As many tasks as are enough for a late time are enough for an earlier one. -/
theorem step?_run_early (h : early ≤ late) (quiet : (c.run late n).step? late = none) :
    (c.run early n).step? early = none := by
  induction n generalizing c with
  | zero => exact step?_eq_none_of_le h quiet
  | succ n ih =>
    rw [run]
    cases hs : c.step? early with
    | none => exact hs
    | some d =>
      rw [run, step?_of_le h hs] at quiet
      exact ih quiet

/-- A task moves the clock to when it is due, unless the clock is past that. -/
theorem Orderly.now_of_step? (h : c.Orderly) (hdue : c.nextDue? = some due)
    (hs : c.step? target = some d) : d.now = max c.now due := by
  obtain ⟨m, hm⟩ := h.mode
  obtain ⟨m', turn, -⟩ := turn_of_step? h.sound hm hs
  rw [nextDue?_of_in hm] at hdue
  exact turn.now_eq hdue

/-- Tasks do not turn the clock back. -/
theorem Orderly.now_le_run (h : c.Orderly) (target : Millis) (n : Nat) :
    c.now ≤ (c.run target n).now := by
  refine h.run_of_step? (P := fun d => c.now ≤ d.now) ?_ (Millis.le_refl _) n
  intro d e o later hs
  obtain ⟨due, hdue, -⟩ := (Option.any_eq_true _ _).1 (due_of_step?_eq_some hs)
  refine Millis.le_trans later ?_
  rw [o.now_of_step? hdue hs]
  exact Millis.le_max_left _ _

/-- A move to when the next task is due runs that task and what it leads to at the same time, and
does not move the clock further. -/
theorem Orderly.run_of_advanceTo?_nextDue (h : c.Orderly) (hdue : c.nextDue? = some due)
    (moved : c.advanceTo? n due = some d) : ∃ k, 0 < k ∧ d = c.run .last k := by
  obtain ⟨e, hs⟩ : ∃ e, c.step? due = some e := by
    cases hs : c.step? due with
    | none => simp [step?_eq_none_iff, hdue, Millis.le_refl] at hs
    | some e => exact ⟨e, rfl⟩
  cases n with
  | zero =>
    rw [advanceTo?_zero_of_step?_eq_some hs] at moved
    cases moved
  | succ n =>
    have reached : due ≤ (c.run due (n + 1)).now := by
      have first : due ≤ e.now := by
        rw [h.now_of_step? hdue hs]
        exact Millis.le_max_right _ _
      rw [run, hs]
      exact Millis.le_trans first ((h.of_step? hs).now_le_run due n)
    simp only [advanceTo?, Option.ite_none_left_eq_some, Option.some.injEq] at moved
    obtain ⟨-, rfl⟩ := moved
    refine ⟨c.ran due (n + 1), ?_, ?_⟩
    · rw [ran, hs]
      exact Nat.succ_pos _
    · rw [settle_of_le reached, run_early due.le_last]

theorem skip?_of_nextDue?_eq_none (hdue : c.nextDue? = none) (limit n : Nat) :
    c.skip? limit n = some c := by
  cases n <;> simp [skip?, hdue]

theorem skip?_of_nextDue?_eq_some (hdue : c.nextDue? = some due) (limit n : Nat) :
    c.skip? limit (n + 1) = (c.advanceTo? limit due).bind (skip? limit n) := by
  simp [skip?, hdue]

/-- Where a wait for idleness ends, skipping from task to task comes to the same conversation. -/
theorem Orderly.skip?_eq_some (h : c.Orderly) (quiet : (c.run .last n).step? .last = none)
    (enough : n ≤ limit) : c.skip? limit n = some (c.run .last n) := by
  induction n generalizing c with
  | zero => exact skip?_of_nextDue?_eq_none (step?_last_eq_none_iff.1 quiet) limit 0
  | succ n ih =>
    cases hdue : c.nextDue? with
    | none =>
      rw [skip?_of_nextDue?_eq_none hdue, run_of_step?_eq_none (step?_last_eq_none_iff.2 hdue)]
    | some due =>
      obtain ⟨d, moved⟩ := advanceTo?_of_quiet (step?_run_early due.le_last quiet)
      obtain ⟨k, some_task, rfl⟩ := h.run_of_advanceTo?_nextDue hdue moved
      -- The move has run a task, so one task less is enough for what is left.
      have rest : (c.run .last k).run .last n = c.run .last (n + 1) := by
        rw [← run_add]
        exact run_of_quiet quiet (by omega)
      rw [skip?_of_nextDue?_eq_some hdue, advanceTo?_of_le enough moved, Option.bind_some,
        ih (h.of_run .last k) (rest ▸ quiet) (by omega), rest]

/-- Wherever skipping from task to task ends, tasks alone lead there, and none is left. -/
theorem Orderly.run_of_skip? (h : c.Orderly) (hs : c.skip? limit n = some c') :
    ∃ k, c' = c.run .last k ∧ c'.step? .last = none := by
  induction n generalizing c with
  | zero =>
    cases hdue : c.nextDue? with
    | none =>
      rw [skip?_of_nextDue?_eq_none hdue] at hs
      cases hs
      exact ⟨0, rfl, step?_last_eq_none_iff.2 hdue⟩
    | some due => simp [skip?, hdue] at hs
  | succ n ih =>
    cases hdue : c.nextDue? with
    | none =>
      rw [skip?_of_nextDue?_eq_none hdue] at hs
      cases hs
      exact ⟨0, rfl, step?_last_eq_none_iff.2 hdue⟩
    | some due =>
      rw [skip?_of_nextDue?_eq_some hdue] at hs
      obtain ⟨d, moved, hs⟩ := Option.bind_eq_some_iff.1 hs
      obtain ⟨k, -, rfl⟩ := h.run_of_advanceTo?_nextDue hdue moved
      obtain ⟨j, rfl, still⟩ := ih (h.of_run .last k) hs
      exact ⟨k + j, by rw [run_add], still⟩

/-- Where a wait for idleness ends with nothing planned, skipping from task to task ends too, and in
the same conversation, however many moves and tasks are allowed for. One move to the end of time
comes to that conversation as well, but with the clock at the end of time. -/
theorem skip?_eq_runUntilIdle {s : Setup} {c₀ : Conversation} (hb : s.build = .ok c₀)
    (h : c₀.Reaches c) (idle : c.runUntilIdle.nextDue? = none) :
    (∃ limit n, c.skip? limit n = some c.runUntilIdle) ∧
    (∀ limit n c', c.skip? limit n = some c' → c' = c.runUntilIdle) ∧
    ∃ limit, c.advanceTo? limit .last =
      some { c.runUntilIdle with stage.agenda.now := .last } := by
  have orderly : c.Orderly := orderly_of_reaches hb h
  have quiet : (c.run .last maxSteps).step? .last = none := step?_last_eq_none_iff.2 idle
  refine ⟨⟨maxSteps, maxSteps, orderly.skip?_eq_some quiet (Nat.le_refl _)⟩, ?_, maxSteps, ?_⟩
  · intro limit n c' hs
    obtain ⟨k, rfl, still⟩ := orderly.run_of_skip? hs
    exact run_eq_of_quiet still quiet
  · have returned := step?_eq_none_iff.1 quiet
    have clock : max c.runUntilIdle.stage.agenda.now .last = .last :=
      Millis.max_eq_right (Millis.le_last _)
    rw [advanceTo?, if_neg returned, ← runUntilIdle, settle, Agenda.settle, clock]

end Inquest.Conversation

namespace Inquest.Gated

/-- While the case types its line, the host may skip to the line and then to the question. -/
theorem skip?_eq_runUntilIdle_of_typing :
    ∃ c log, (setupWith .standard .reference).build = .ok (openingWith .standard .reference) ∧
      (openingWith .standard .reference).play? 10 [.start, .advanceTo 700] = some (c, log) ∧
      c.isTyping ∧ c.runUntilIdle.nextDue? = none ∧ c.runUntilIdle.decision?.isSome ∧
      c.runUntilIdle.now = 1500 ∧
      (∃ limit n, c.skip? limit n = some c.runUntilIdle) ∧
      (∀ limit n c', c.skip? limit n = some c' → c' = c.runUntilIdle) ∧
      ∃ limit, c.advanceTo? limit .last =
        some { c.runUntilIdle with stage.agenda.now := .last } := by
  obtain ⟨c, log, played, typing, idle, asks, now⟩ : ∃ c log,
      (openingWith .standard .reference).play? 10 [.start, .advanceTo 700] = some (c, log) ∧
      c.isTyping ∧ c.runUntilIdle.nextDue? = none ∧ c.runUntilIdle.decision?.isSome ∧
      c.runUntilIdle.now = 1500 := ⟨_, _, rfl, rfl, rfl, rfl, rfl⟩
  exact ⟨c, log, build_setupWith _ _, played, typing, idle, asks, now,
    Conversation.skip?_eq_runUntilIdle (build_setupWith _ _) ⟨10, _, log, played⟩ idle⟩

end Inquest.Gated
