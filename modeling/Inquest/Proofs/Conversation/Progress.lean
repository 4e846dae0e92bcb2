import Inquest.Proofs.Conversation.Polling
import Inquest.Proofs.Dialogue.Progress
/-!
# Progress of a conversation

A conversation plays scenes that can be reached from the start, and no more is left of a scene than
a visit of it takes. Where each task leaves fewer to come, moving the clock returns, and no more
tasks are run than were to come.
-/

namespace Inquest.Conversation

/-- A conversation with the given script, in a scene that can be reached from the start and of which
no more is left than a visit takes. -/
structure Underway (script : Script) (c : Conversation) : Prop extends Prompt c where
  plays : c.script = script
  paced : ∀ m, c.In m → m.Paced
  reaches : ∀ m, c.In m → ∀ sc, m.scene? = some sc → script.Reaches sc

variable {script : Script} {c c' d : Conversation} {m : Mode} {sc : Scene} {target : Millis}

/-- A conversation at the beginning of a scene that can be reached. -/
theorem Prompt.underway {due : Millis} (h : c.Prompt) (plays : c.script = script)
    (hm : c.In (.leadIn sc due)) (reached : script.Reaches sc) : c.Underway script := by
  refine ⟨h, plays, ?_, ?_⟩
  · intro m' hm'
    obtain rfl : .leadIn sc due = m' := hm.unique hm'
    rintro _ ⟨⟩
    exact Nat.le_refl _
  · intro m' hm'
    obtain rfl : .leadIn sc due = m' := hm.unique hm'
    rintro _ ⟨⟩
    exact reached

/-- What changes neither the mode nor the script leaves a conversation where it is. -/
theorem Underway.aside (h : c.Underway script) (a : c.Aside c') (prompt : c'.Prompt) :
    c'.Underway script := by
  obtain ⟨m, hm⟩ := h.mode
  refine ⟨prompt, a.script.trans h.plays, ?_, ?_⟩
  · intro m' hm'
    obtain rfl : m = m' := (hm.aside a).unique hm'
    exact h.paced m hm
  · intro m' hm'
    obtain rfl : m = m' := (hm.aside a).unique hm'
    exact h.reaches m hm

/-- No move of a conversation leads to a scene that cannot be reached. -/
theorem kept_underway : Kept fun _ c => c.Underway script where
  start {t c} h := by
    obtain ⟨m, hm⟩ := h.mode
    by_cases fresh : m = .unstarted
    · subst fresh
      have prompt : c.start.1.Prompt := kept_prompt.start (t := t) h.toPrompt
      obtain ⟨sc, found, eq, waits⟩ := start_of_unstarted h.sound hm
      have plays : c.start.1.script = script := by
        rw [eq]
        exact h.plays
      rw [h.plays] at found
      exact prompt.underway plays waits ⟨sc, found, .refl⟩
    · rw [start_of_ne hm fresh]
      exact h
  task {t c _ c'} h hs := by
    obtain ⟨m, hm⟩ := h.mode
    obtain ⟨m', turn, hm'⟩ := turn_of_step? h.sound hm hs
    refine ⟨kept_prompt.task (t := t) h.toPrompt hs, turn.sameCase.script.trans h.plays, ?_, ?_⟩
    · intro m'' hm''
      obtain rfl : m' = m'' := hm'.unique hm''
      exact turn.paced (h.paced m hm)
    · intro m'' hm'' sc hsc
      obtain rfl : m' = m'' := hm'.unique hm''
      rcases turn.scene_or_proceeds with same | ⟨sc₁, sc₂, before, next, rfl⟩
      · exact h.reaches m hm sc (same ▸ hsc)
      · cases hsc
        have next : script.Proceeds sc₁ sc := h.plays ▸ next
        exact (h.reaches m hm sc₁ before).leads next.leads
  settle {t c target} h quiet :=
    h.aside (aside_settle c target) (kept_prompt.settle (t := t) h.toPrompt quiet)
  chosen {t c value} h ok := by
    have prompt : (c.choose value).1.Prompt := kept_prompt.chosen (t := t) h.toPrompt ok
    obtain ⟨sc, number, o, sc', hm, ho, found, eq, waits⟩ := choose_of_ok h.toOrderly ok
    have plays : (c.choose value).1.script = script := by
      rw [eq, ← h.plays]
      exact congrArg Walk.script (Stage.walk_accept _)
    have leads : script.Leads sc sc' := by
      obtain ⟨kind, options, exit, -⟩ := hm.stage.exit
      rw [exit] at ho
      refine ⟨o.next, ?_, h.plays ▸ found⟩
      rw [exit]
      exact List.mem_map_of_mem (List.mem_of_find?_eq_some ho)
    exact prompt.underway plays waits ((h.reaches _ hm sc rfl).leads leads)
  refused h hv := by
    rw [choose_of_error h.toOrderly hv]
    exact h
  annotate {t c} claim category h :=
    h.aside (aside_annotate c claim category)
      (kept_prompt.annotate (t := t) claim category h.toPrompt)
  finishLoad {t c} result h :=
    h.aside (aside_finishLoad c result) (kept_prompt.finishLoad (t := t) result h.toPrompt)
  takeEvents {t c} h := h.aside (aside_takeEvents c) (kept_prompt.takeEvents (t := t) h.toPrompt)

theorem unstarted_of_build {s : Setup} (h : s.build = .ok c) : c.In .unstarted := by
  obtain ⟨script, pacing, sound, rfl⟩ := Setup.build_eq_ok h
  exact ⟨⟨rfl, rfl, nofun, trivial⟩, by simp⟩

theorem underway_of_build {s : Setup} (h : s.build = .ok c) : c.Underway c.script := by
  refine ⟨prompt_of_build h, rfl, ?_, ?_⟩
  · intro m hm
    obtain rfl : .unstarted = m := (unstarted_of_build h).unique hm
    exact nofun
  · intro m hm
    obtain rfl : .unstarted = m := (unstarted_of_build h).unique hm
    exact nofun

theorem underway_of_reaches {s : Setup} {c₀ : Conversation} (hb : s.build = .ok c₀)
    (h : c₀.Reaches c) : c.Underway c₀.script := by
  obtain ⟨limit, calls, log, h⟩ := h
  exact kept_underway.play (t := {}) (underway_of_build hb) h

theorem In.pending (h : c.In m) : c.stage.agenda.pending = m.control.pending :=
  congrArg Control.pending h.stage.control

/-- The next task is due when the mode says. -/
theorem nextDue?_of_in (h : c.In m) : c.nextDue? = m.due? := by
  rw [nextDue?, Agenda.nextDue?, h.pending]
  rfl

/-- Nothing is due where no task is left. -/
theorem step?_eq_none_of_tasksLeft (h : c.In m) (rests : m.tasksLeft = 0) :
    c.step? target = none := by
  have idle : m.due? = none := by
    apply Option.eq_none_iff_forall_ne_some.2
    intro due hdue
    have left : 0 < m.tasksLeft := Mode.tasksLeft_pos_iff.2 ⟨due, hdue⟩
    omega
  rw [step?_eq_none_iff, nextDue?_of_in h, idle]
  simp

/-- Until the end of time the next task is run, if there is one. -/
theorem exists_step?_last (h : c.In m) (left : 0 < m.tasksLeft) : ∃ d, c.step? .last = some d := by
  obtain ⟨due, hdue⟩ := Mode.tasksLeft_pos_iff.1 left
  rw [← Option.isSome_iff_exists, Option.isSome_iff_ne_none, Ne, step?_eq_none_iff,
    nextDue?_any_last, nextDue?_of_in h, hdue]
  simp

/-- How many tasks `run` runs. -/
def ran (target : Millis) : Nat → Conversation → Nat
  | 0, _ => 0
  | n + 1, c => match c.step? target with
    | none => 0
    | some c => c.ran target n + 1

/-- The tasks that are due by an early time are the first of those due by a later one. -/
theorem run_early {early late : Millis} (h : early ≤ late) (n : Nat) :
    c.run early n = c.run late (c.ran early n) := by
  induction n generalizing c with
  | zero => rfl
  | succ n ih =>
    rw [run, ran]
    cases hs : c.step? early with
    | none => rfl
    | some d =>
      simp only [run, step?_of_le h hs]
      exact ih

/-- When nothing is due after some tasks, no more are run. -/
theorem ran_le {n : Nat} (quiet : (c.run target n).step? target = none) (limit : Nat) :
    c.ran target limit ≤ n := by
  induction n generalizing c limit with
  | zero =>
    have quiet : c.step? target = none := quiet
    cases limit with
    | zero => exact Nat.le_refl _
    | succ limit => simp [ran, quiet]
  | succ n ih =>
    cases limit with
    | zero => exact Nat.zero_le _
    | succ limit =>
      rw [run] at quiet
      rw [ran]
      cases hs : c.step? target with
      | none => exact Nat.zero_le _
      | some d =>
        rw [hs] at quiet
        exact Nat.succ_le_succ (ih quiet limit)

/-- Where every task lowers a measure of the mode, nothing is due after as many tasks as it says. -/
theorem Underway.step?_run_of_measure {n : Nat} (measure : Mode → Nat)
    (less : ∀ {c d : Conversation} {m m' : Mode}, c.Underway script → c.In m →
      c.step? target = some d → c.stage.Turn m m' d.stage → d.Underway script → d.In m' →
        measure m' < measure m)
    (h : c.Underway script) (hm : c.In m) (enough : measure m ≤ n) :
    (c.run target n).step? target = none := by
  induction n using Nat.strong_induction_on generalizing c m with
  | _ n ih =>
    cases hs : c.step? target with
    | none =>
      rw [run_of_step?_eq_none hs]
      exact hs
    | some d =>
      obtain ⟨m', turn, hm'⟩ := turn_of_step? h.sound hm hs
      have under : d.Underway script := kept_underway.task (t := {}) h hs
      have lower : measure m' < measure m := less h hm hs turn under hm'
      obtain ⟨k, rfl⟩ : ∃ k, n = k + 1 := ⟨n - 1, by omega⟩
      rw [run, hs]
      exact ih k (Nat.lt_succ_self k) under hm' (by omega)

theorem advanceTo?_of_quiet {n : Nat} (quiet : (c.run target n).step? target = none) :
    ∃ c', c.advanceTo? n target = some c' := by
  have still := step?_eq_none_iff.1 quiet
  exact ⟨(c.run target n).settle target, by simp [advanceTo?, still]⟩

end Inquest.Conversation
