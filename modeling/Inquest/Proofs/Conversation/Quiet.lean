import Inquest.Proofs.Conversation.Progress
import Inquest.Proofs.Conversation.Record
import Inquest.Proofs.Conversation.Story
import Inquest.Proofs.Dialogue.Quiet
/-!
# Conversations that have gone quiet

A conversation is finished, as its host is told, when nothing is queued or being typed, no decision
waits and something has been said. That is so at its end, but also during a lead-in and during the
pause after the last line of a scene. It is the last word exactly if neither the rest of the scene nor
the scenes that follow it without the player have anything to say or to ask.
-/

namespace Inquest

def Call.passesTime : Call → Bool
  | start | advance _ | advanceTo _ | sync _ | runUntilIdle => true
  | _ => false

namespace Conversation

/-- No calls that let time pass add a line to the history or show a decision. -/
def Final (c : Conversation) : Prop := ∀ limit calls c' log, (∀ call ∈ calls, call.passesTime) →
  c.play? limit calls = some (c', log) → c'.history = c.history ∧ c'.decision? = none

/-- Nothing is left to say or to ask before the player's next choice. -/
def AllSaid (c : Conversation) : Prop := ∃ m, c.In m ∧ c.stage.AllSaid m

variable {c c' d : Conversation} {m m' : Mode} {sc sc' : Scene} {due : Millis} {script : Script}
  {history : Array Line}

/-! Where all is said. -/

/-- A conversation with the given history in which all is said. -/
structure Stilled (history : Array Line) (c : Conversation) : Prop where
  sound : c.script.Sound
  allSaid : c.AllSaid
  same : c.history = history

theorem Stilled.orderly (h : c.Stilled history) : c.Orderly :=
  ⟨h.sound, h.allSaid.imp fun _ hm => hm.1⟩

theorem AllSaid.decision?_eq_none (h : c.AllSaid) : c.decision? = none := by
  obtain ⟨m, hm, all⟩ := h
  rcases decision?_of_in hm with none | ⟨sc, number, rfl⟩
  · exact none
  · exact absurd all id

theorem Stilled.aside (h : c.Stilled history) (a : c.Aside c') (same : c'.history = c.history) :
    c'.Stilled history := by
  obtain ⟨m, hm, all⟩ := h.allSaid
  refine ⟨a.script ▸ h.sound, ⟨m, hm.aside a, ?_⟩, same.trans h.same⟩
  exact all.of_ruling a.script a.ruling a.suspect

/-- Where all is said, no call says or asks anything. -/
theorem kept_stilled : Kept fun _ c => c.Stilled history where
  start {_ c} h := by
    obtain ⟨m, hm, all⟩ := h.allSaid
    have begun : m ≠ .unstarted := by
      rintro rfl
      exact all
    rw [start_of_ne hm begun]
    exact h
  task {t c _ c'} h hs := by
    obtain ⟨m, hm, all⟩ := h.allSaid
    obtain ⟨m', turn, hm'⟩ := turn_of_step? h.sound hm hs
    obtain ⟨all', same⟩ := turn.allSaid all
    have orderly := h.orderly.of_step? hs
    exact ⟨orderly.sound, ⟨m', hm', all'⟩, same.trans h.same⟩
  settle h _ := h.aside (aside_settle _ _) rfl
  chosen {_ c value} h ok := by
    rw [choose_of_decision?_eq_none h.allSaid.decision?_eq_none] at ok
    cases ok
  refused h hv := by
    rw [choose_of_error h.orderly hv]
    exact h
  annotate claim category h := h.aside (aside_annotate _ claim category) rfl
  finishLoad result h := h.aside (aside_finishLoad _ result) rfl
  takeEvents h := h.aside (aside_takeEvents _) rfl

/-! Where something is left to say or to ask. -/

/-- Some number of tasks adds a line to the history or shows a decision. -/
def Stirs (c : Conversation) : Prop :=
  ∃ n, c.history.size < (c.run .last n).history.size ∨ (c.run .last n).decision?.isSome

/-- What a task leads to is what the conversation leads to. -/
theorem Stirs.of_step? (h : d.Stirs) (hs : c.step? .last = some d)
    (history : c.history.size ≤ d.history.size) : c.Stirs := by
  obtain ⟨n, stirs⟩ := h
  refine ⟨n + 1, ?_⟩
  rw [run, hs]
  exact stirs.imp_left (Nat.lt_of_le_of_lt history)

theorem stirs_of_asking {number : Nat} (h : c.In (.asking sc number)) : c.Stirs :=
  ⟨0, .inr (by rw [run, decision?_of_asking h]; rfl)⟩

/-- A line that is being typed is said. -/
theorem Orderly.stirs_of_typing {line : String} {rest : List String} (o : c.Orderly)
    (hm : c.In (.typing sc due line rest)) : c.Stirs := by
  obtain ⟨d, hs⟩ := exists_step?_last hm (Mode.tasksLeft_pos_iff.2 ⟨due, rfl⟩)
  obtain ⟨m', turn, -⟩ := turn_of_step? o.sound hm hs
  refine ⟨1, .inl ?_⟩
  rw [run, hs]
  show c.history.size < d.stage.hearing.narrator.history.size
  generalize d.stage = t at turn
  cases turn with
  | reveal => simp [history]
  | leave hushed => cases hushed

/-- One task leads from a scene through its exit. -/
structure Left (c : Conversation) (sc : Scene) (m : Mode) (d : Conversation) : Prop where
  step : c.step? .last = some d
  orderly : d.Orderly
  mode : d.In m
  leaves : ∃ u : Stage, u.walk.script = c.script ∧ u.Leaves sc m d.stage
  same : c.stage.SameCase d.stage
  history : d.history = c.history

theorem Left.stirs (h : c.Left sc m d) (hd : d.Stirs) : c.Stirs :=
  hd.of_step? h.step (by rw [h.history])

theorem Left.stirs_of_asks (h : c.Left sc m d) (asks : sc.Asks) : c.Stirs := by
  obtain ⟨u, -, leaves⟩ := h.leaves
  obtain ⟨number, rfl⟩ := leaves.eq_of_asks asks
  exact h.stirs (stirs_of_asking h.mode)

/-- When a lead-in is over a line is typed, or there is none and the scene is left. -/
theorem Orderly.stirs_or_left (o : c.Orderly) (hm : c.In (.leadIn sc due)) :
    c.Stirs ∨ Narrator.spoken (c.stage.linesOf sc) = [] ∧ ∃ m d, c.Left sc m d := by
  obtain ⟨d, hs⟩ := exists_step?_last hm (Mode.tasksLeft_leadIn_pos sc due)
  obtain ⟨m, turn, hd⟩ := turn_of_step? o.sound hm hs
  have orderly : d.Orderly := o.of_step? hs
  obtain ⟨same, ⟨due', line, rest, rfl⟩ | ⟨lines, leaves⟩⟩ := turn.of_leadIn
  · exact .inl ((orderly.stirs_of_typing hd).of_step? hs (Nat.le_of_eq (congrArg _ same.symm)))
  · exact .inr ⟨lines, m, d, hs, orderly, hd, leaves, turn.sameCase, same⟩

/-- When the last pause is over the scene is left. -/
theorem Orderly.left_of_pause (o : c.Orderly) (hm : c.In (.pause sc due [])) :
    ∃ m d, c.Left sc m d := by
  obtain ⟨d, hs⟩ := exists_step?_last hm (Mode.tasksLeft_pos_iff.2 ⟨due, rfl⟩)
  obtain ⟨m, turn, hd⟩ := turn_of_step? o.sound hm hs
  obtain ⟨same, leaves⟩ := turn.of_pause
  exact ⟨m, d, hs, o.of_step? hs, hd, leaves, turn.sameCase, same⟩

/-- A scene that was left for the next waits for its lead-in, and the same lines are to come. -/
theorem Left.proceeds (h : c.Left sc m d) (next : c.script.Proceeds sc sc') :
    (∃ due, d.In (.leadIn sc' due)) ∧ ∀ sc, ¬c.stage.Mute sc → ¬d.stage.Mute sc := by
  obtain ⟨u, plays, leaves⟩ := h.leaves
  refine ⟨⟨_, leaves.eq_of_proceeds (plays ▸ next) ▸ h.mode⟩, fun sc loud mute => loud ?_⟩
  exact mute.of_ruling h.same.ruling.symm h.same.suspect.symm

/-- Scenes that go straight on come to the one that says something or asks for something. -/
theorem Orderly.stirs_of_path (path : Relation.ReflTransGen script.Proceeds sc sc') :
    ∀ {c : Conversation} {due : Millis}, c.Orderly → c.script = script → c.In (.leadIn sc due) →
      ¬c.stage.Mute sc' → c.Stirs := by
  induction path using Relation.ReflTransGen.head_induction_on with
  | refl =>
    intro c due o _ hm loud
    rcases o.stirs_or_left hm with stirs | ⟨silent, m, d, left⟩
    · exact stirs
    · refine left.stirs_of_asks ?_
      exact Classical.byContradiction fun noGate => loud ⟨silent, noGate⟩
  | head next _ ih =>
    rintro c due o rfl hm loud
    rcases o.stirs_or_left hm with stirs | ⟨-, m, d, left⟩
    · exact stirs
    · obtain ⟨⟨due', hd⟩, still⟩ := left.proceeds next
      exact left.stirs (ih left.orderly left.same.script hd (still _ loud))

/-- Where a lead-in or a last pause is not the end, something is said or asked after it. -/
theorem Orderly.stirs_of_not_allSaid (o : c.Orderly) (hm : c.In m)
    (rests : m.control.typing = false ∧ m.control.queue = [] ∧ m ≠ .unstarted)
    (more : ¬c.stage.AllSaid m) : c.Stirs := by
  obtain ⟨typing, queue, begun⟩ := rests
  cases m with
  | unstarted => exact absurd rfl begun
  | typing => cases typing
  | closed => exact absurd trivial more
  | asking sc number => exact stirs_of_asking hm
  | leadIn sc due =>
    obtain ⟨sc', more⟩ := not_forall.1 more
    obtain ⟨path, loud⟩ := Classical.not_imp.1 more
    exact o.stirs_of_path path rfl hm loud
  | pause sc due rest =>
    obtain rfl : rest = [] := queue
    obtain ⟨m, d, left⟩ := o.left_of_pause hm
    by_cases asks : sc.Asks
    · exact left.stirs_of_asks asks
    · obtain ⟨sc', path, loud⟩ : ∃ sc', Relation.TransGen c.stage.walk.script.Proceeds sc sc' ∧
          ¬c.stage.Mute sc' := by
        refine Classical.byContradiction fun none => more ⟨rfl, asks, fun sc' path => ?_⟩
        exact Classical.byContradiction fun loud => none ⟨sc', path, loud⟩
      obtain ⟨sc₁, next, path⟩ := Relation.TransGen.head'_iff.1 path
      obtain ⟨⟨due', hd⟩, still⟩ := left.proceeds next
      exact left.stirs (left.orderly.stirs_of_path path left.same.script hd (still _ loud))

/-! What the end signal says. -/

/-- Nothing has been said before the start. -/
theorem history_of_unstarted {s : Setup} {c₀ : Conversation} (hb : s.build = .ok c₀)
    (h : c₀.Reaches c) (fresh : c.In .unstarted) : c.history = #[] := by
  obtain ⟨limit, calls, log, played⟩ := h
  have tells : c.Tells c₀.script c₀.stage.walk.suspect (Transcript.ofLog log) :=
    kept_tells.play (tells_of_build hb) played
  have recorded : c.Recorded [] 0 (Transcript.ofLog log) :=
    kept_recorded.play (recorded_of_build hb) played
  obtain ⟨m, hm, told⟩ := tells.mode
  obtain rfl : m = .unstarted := hm.unique fresh
  have fits : Plot.Fits ⟨c.script, c.stage.walk.suspect, c.accuracy?.getD {}⟩ c.stage := by
    refine ⟨rfl, rfl, fun r hr => ?_⟩
    simp [accuracy?, Hearing.accuracy?, hr]
  obtain ⟨-, none, -⟩ := told _ fits
  have silence := recorded.told
  rw [List.map_eq_nil_iff.1 none] at silence
  exact Array.toList_eq_nil_iff.1 silence.symm

theorem isFinished_of_in (hm : c.In m) : c.isFinished =
    (m.control.queue.isEmpty && !m.control.typing &&
      !(m.control.shown.isSome || m.control.held.isSome) && !c.history.isEmpty) := by
  rw [← hm.stage.control]
  rfl

/-- A conversation in which all is said is finished, if something was said. -/
theorem AllSaid.isFinished (h : c.AllSaid) (said : c.history.isEmpty = false) :
    c.isFinished = true := by
  obtain ⟨m, hm, all⟩ := h
  rw [isFinished_of_in hm, said]
  cases m with
  | leadIn | closed => rfl
  | pause sc due rest =>
    obtain ⟨rfl, -⟩ := all
    rfl
  | unstarted | typing | asking => exact absurd all id

/-- Waits for idleness, one after the other, run as many tasks as there are. -/
theorem exists_play?_waits (c : Conversation) (n : Nat) :
    ∃ log, c.play? 0 (List.replicate n .runUntilIdle) = some (c.run .last (n * maxSteps), log) := by
  induction n generalizing c with
  | zero => exact ⟨[], by rw [Nat.zero_mul]; rfl⟩
  | succ n ih =>
    obtain ⟨log, played⟩ := ih c.runUntilIdle
    refine ⟨_, play?_cons.2 ⟨c.runUntilIdle, _, log, rfl, ?_, rfl⟩⟩
    rw [played, runUntilIdle, ← run_add, Nat.succ_mul, Nat.add_comm]

/-- Tasks take no line back. -/
theorem Orderly.size_history_run (o : c.Orderly) (n : Nat) :
    c.history.size ≤ (c.run .last n).history.size := by
  refine o.run_of_step? (P := fun d => c.history.size ≤ d.history.size) ?_ (Nat.le_refl _) n
  intro d e o grown hs
  obtain ⟨m, hm⟩ := o.mode
  obtain ⟨m', turn, -⟩ := turn_of_step? o.sound hm hs
  obtain ⟨es, said, adds, -⟩ := turn.adds
  have more : e.history.toList = d.history.toList ++ said.toList := adds.history
  have sizes := congrArg List.length more
  simp only [List.length_append, Array.length_toList] at sizes
  omega

/-- What some tasks stir up, waits for idleness stir up. -/
theorem Orderly.not_final_of_stirs (o : c.Orderly) (h : c.Stirs) : ¬c.Final := by
  intro final
  obtain ⟨n, stirs⟩ := h
  obtain ⟨log, played⟩ := c.exists_play?_waits n
  have waits : ∀ call ∈ List.replicate n Call.runUntilIdle, call.passesTime := by
    intro call mem
    rw [List.eq_of_mem_replicate mem]
    rfl
  obtain ⟨same, none⟩ := final 0 _ _ log waits played
  obtain ⟨more, enough⟩ : ∃ more, n * maxSteps = n + more :=
    Nat.exists_eq_add_of_le (Nat.le_mul_of_pos_right n (by decide))
  rw [enough, run_add] at same none
  have orderly : (c.run .last n).Orderly := o.of_run .last n
  rcases stirs with grown | asks
  · have kept := orderly.size_history_run more
    rw [same] at kept
    omega
  · -- While a decision is on screen no task is planned.
    obtain ⟨m, hm⟩ := orderly.mode
    rcases decision?_of_in hm with unasked | ⟨sc, number, rfl⟩
    · rw [unasked] at asks
      cases asks
    · rw [run_of_step?_eq_none (step?_eq_none_of_tasksLeft hm rfl), decision?_of_asking hm] at none
      cases none

/-- While a conversation is finished, as its host is told, no choice is possible. It stays so exactly
if neither the rest of the scene nor what follows it without the player says or asks anything; then
no calls at all change that. It is so wherever nothing is planned. -/
theorem final_iff_of_isFinished {s : Setup} {c₀ : Conversation} (hb : s.build = .ok c₀)
    (h : c₀.Reaches c) (finished : c.isFinished = true) :
    (∀ value, c.choose value = (c, .error .noPendingDecision)) ∧
    (c.Final ↔ c.AllSaid) ∧
    (c.AllSaid → ∀ limit calls c' log, c.play? limit calls = some (c', log) →
      c'.history = c.history ∧ c'.isFinished = true) ∧
    (c.nextDue? = none → c.AllSaid) := by
  have orderly : c.Orderly := orderly_of_reaches hb h
  obtain ⟨m, hm⟩ := orderly.mode
  have rests := isFinished_of_in hm
  rw [finished, eq_comm, Bool.and_eq_true, Bool.and_eq_true, Bool.and_eq_true] at rests
  obtain ⟨⟨⟨queue, typing⟩, undecided⟩, some_line⟩ := rests
  have said : c.history.isEmpty = false := by simpa using some_line
  have begun : m ≠ .unstarted := by
    rintro rfl
    rw [history_of_unstarted hb h hm] at said
    cases said
  have quiet : c.AllSaid → ∀ limit calls c' log, c.play? limit calls = some (c', log) →
      c'.Stilled c.history := fun all limit calls c' log played =>
    kept_stilled.play (t := {}) ⟨orderly.sound, all, rfl⟩ played
  refine ⟨fun value => choose_of_decision?_eq_none ?_ value, ⟨?_, ?_⟩, ?_, ?_⟩
  · rcases decision?_of_in hm with none | ⟨sc, number, rfl⟩
    · exact none
    · cases undecided
  · intro final
    refine Classical.byContradiction fun more => orderly.not_final_of_stirs ?_ final
    refine orderly.stirs_of_not_allSaid hm ⟨?_, ?_, begun⟩ fun all => more ⟨m, hm, all⟩
    · simpa using typing
    · simpa using queue
  · intro all limit calls c' log _ played
    have still := quiet all limit calls c' log played
    exact ⟨still.same, still.allSaid.decision?_eq_none⟩
  · intro all limit calls c' log played
    have still := quiet all limit calls c' log played
    exact ⟨still.same, still.allSaid.isFinished (by rw [still.same]; exact said)⟩
  · intro idle
    rw [nextDue?_of_in hm] at idle
    refine ⟨m, hm, ?_⟩
    cases m with
    | unstarted => exact absurd rfl begun
    | leadIn | typing | pause => cases idle
    | asking => cases undecided
    | closed => trivial

end Conversation

namespace Gated

/-- The case is finished, as its host is told, at the end of each of its scenes and before the next:
500 before it asks for the verdict, and again before it says the last line. -/
theorem not_final_of_pause :
    (∃ c log c' log', (openingWith .standard .reference).play? 10 [.start, .advanceTo 1200] =
        some (c, log) ∧ c.isFinished = true ∧
      c.play? 10 [.advanceTo 1500] = some (c', log') ∧ c'.decision?.isSome) ∧
    (∃ c log c' log', (openingWith .standard .reference).play? 10
        [.start, .advanceTo 1500, .choose "guilty"] = some (c, log) ∧ c.isFinished = true ∧
      c.play? 10 [.advanceTo 2600] = some (c', log') ∧ c'.history.size = c.history.size + 1) ∧
    ¬∀ (s : Setup) (c₀ c : Conversation), s.build = .ok c₀ → c₀.Reaches c →
      c.isFinished = true → c.Final := by
  refine ⟨⟨_, _, _, _, rfl, rfl, rfl, rfl⟩, ⟨_, _, _, _, rfl, rfl, rfl, rfl⟩, fun claim => ?_⟩
  obtain ⟨c, log, played, finished, c', log', moved, asks⟩ : ∃ c log,
      (openingWith .standard .reference).play? 10 [.start, .advanceTo 1200] = some (c, log) ∧
        c.isFinished = true ∧ ∃ c' log',
      c.play? 10 [.advanceTo 1500] = some (c', log') ∧ c'.decision?.isSome :=
    ⟨_, _, rfl, rfl, _, _, rfl, rfl⟩
  have final := claim _ _ c (build_setupWith .standard .reference) ⟨10, _, log, played⟩ finished
  obtain ⟨-, none⟩ := final 10 [.advanceTo 1500] c' log' (by simp [Call.passesTime]) moved
  rw [none] at asks
  cases asks

/-- At its end the case is finished for good. -/
theorem final_iff_of_end :
    ∃ c log, (setupWith .standard .reference).build = .ok (openingWith .standard .reference) ∧
      (openingWith .standard .reference).play? 10
        [.start, .runUntilIdle, .choose "guilty", .runUntilIdle] = some (c, log) ∧
      c.isFinished = true ∧ c.nextDue? = none ∧
      (∀ value, c.choose value = (c, .error .noPendingDecision)) ∧ c.Final ∧
      ∀ limit calls c' log, c.play? limit calls = some (c', log) →
        c'.history = c.history ∧ c'.isFinished = true := by
  obtain ⟨c, log, played, finished, idle⟩ : ∃ c log, (openingWith .standard .reference).play? 10
      [.start, .runUntilIdle, .choose "guilty", .runUntilIdle] = some (c, log) ∧
        c.isFinished = true ∧ c.nextDue? = none := ⟨_, _, rfl, rfl, rfl⟩
  obtain ⟨refuses, final, quiet, rests⟩ := Conversation.final_iff_of_isFinished
    (build_setupWith .standard .reference) ⟨10, _, log, played⟩ finished
  exact ⟨c, log, build_setupWith _ _, played, finished, idle, refuses, final.2 (rests idle),
    quiet (rests idle)⟩

end Gated

end Inquest
