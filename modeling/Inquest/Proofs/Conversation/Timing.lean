import Inquest.Proofs.Conversation.Chronicle
import Inquest.Proofs.Conversation.Rest
/-!
# Timing of a conversation

Every visit of a scene keeps to its timetable, which is fixed when the scene is entered. No move of
the clock brings anything about that the timetable has for a later time than that of the move, and
none returns before all has come about that the timetable has up to it.
-/

namespace Inquest

namespace Conversation

/-- A conversation with the given script and pacing whose chronicle has everything it has told, each
line with its time, and in which every visit of a scene has kept to its timetable. -/
structure Timed (script : Script) (pacing : Pacing) (t : Transcript) (ms : Chronicle)
    (c : Conversation) : Prop extends Prompt c where
  plays : c.script = script
  pace : c.stage.hearing.narrator.pacing = pacing
  told : ms.map (·.event) = t.told c
  stamped : ∀ x ∈ ms, ∀ line, x.event = .lineRevealed line → line.createdAt = x.time
  visits : ∀ m, c.In m → ∀ x after name, x :: after <:+ ms → x.event = .sceneEntered name →
    ∃ sc, script.scene? name = some sc ∧ (x.visit pacing sc).Follows 0 after c.stage m

variable {script : Script} {pacing : Pacing} {t t' : Transcript} {ms : Chronicle}
  {c c' d : Conversation} {m m' : Mode} {es es' : List Event} {said : Option Line} {v : Visit}
  {limit n : Nat} {target : Millis}

/-- A move that tells what comes next on the timetable. -/
theorem Timed.tells (h : c.Timed script pacing t ms) (prompt : c'.Prompt)
    (plays : c'.script = c.script)
    (pace : c'.stage.hearing.narrator.pacing = c.stage.hearing.narrator.pacing)
    (taken : t'.taken = t.taken) (adds : c.stage.Adds c'.stage es said) (hm : c.In m) (hm' : c'.In m')
    (next : ∀ v k, v.pacing = pacing → c.stage.Awaits v k m →
      v.Follows k (c.news c') c'.stage m')
    (events : c'.stage.events.toList = c.stage.events.toList ++ es')
    (last : m'.EntersLast c'.now es') : c'.Timed script pacing t' (ms ++ c.news c') := by
  have news : c.news c' = es.map (⟨c'.stage, ·⟩) := Stage.moments_of_events es adds.events
  refine ⟨prompt, plays.trans h.plays, pace.trans h.pace, ?_, ?_, ?_⟩
  · rw [Transcript.told_of_events adds.events taken, List.map_append, h.told, news]
    simp [Function.comp_def]
  · intro x mem line hx
    rcases List.mem_append.1 mem with old | new
    · exact h.stamped x old line hx
    · rw [news] at new
      obtain ⟨e, here, rfl⟩ := List.mem_map.1 new
      obtain rfl : e = .lineRevealed line := hx
      have told : line ∈ revealed es := List.mem_filterMap.2 ⟨_, here, rfl⟩
      rw [adds.revealed] at told
      exact adds.time line (Option.mem_toList.1 told)
  · intro m'' hm'' x after name suffix entered
    obtain rfl : m' = m'' := hm'.unique hm''
    rcases Chronicle.suffix_append suffix with ⟨rest, old, rfl⟩ | new
    · obtain ⟨sc, found, follows⟩ := h.visits m hm x rest name old entered
      exact ⟨sc, found, follows.append fun k waits => next _ k rfl waits⟩
    · obtain ⟨sc, rfl, here, follows⟩ :=
        Stage.follows_of_entersLast pacing last events new entered
      refine ⟨sc, ?_, follows⟩
      rw [← h.plays, ← plays]
      exact hm'.stage.known sc here

/-- What tells nothing keeps to the timetable. -/
theorem Timed.aside (h : c.Timed script pacing t ms) (a : c.Aside c') (prompt : c'.Prompt)
    (pace : c'.stage.hearing.narrator.pacing = c.stage.hearing.narrator.pacing)
    (told : t'.told c' = t.told c) : c'.Timed script pacing t' ms := by
  obtain ⟨m, hm⟩ := h.mode
  refine ⟨prompt, a.script.trans h.plays, pace.trans h.pace, told ▸ h.told, h.stamped, ?_⟩
  intro m' hm' x after name suffix entered
  obtain rfl : m = m' := (hm.aside a).unique hm'
  obtain ⟨sc, found, follows⟩ := h.visits m hm x after name suffix entered
  exact ⟨sc, found, follows.said, follows.exit,
    fun stays => (follows.goesOn stays).of_ruling a.ruling a.suspect⟩

/-- No move of a conversation breaks a timetable. -/
theorem chronicled_timed : Chronicled (fun t ms c => c.Timed script pacing t ms) where
  start {t ms c} h := by
    obtain ⟨m, hm⟩ := h.mode
    by_cases fresh : m = .unstarted
    · subst fresh
      have prompt : c.start.1.Prompt := kept_prompt.start (t := t) h.toPrompt
      obtain ⟨sc, -, eq, waits⟩ := start_of_unstarted h.sound hm
      rw [eq] at prompt waits ⊢
      refine h.tells prompt rfl rfl rfl (c.stage.adds_entering sc) hm waits ?_
        Stage.toList_events_entering ?_
      · rintro v k - ⟨⟩
      · exact Stage.entersLast_entering c.now sc
    · rw [start_of_ne hm fresh, news_self, List.append_nil]
      exact h
  task {t ms c _ c'} h hs := by
    obtain ⟨m, hm⟩ := h.mode
    obtain ⟨m', turn, hm'⟩ := turn_of_step? h.sound hm hs
    obtain ⟨es, said, adds, -⟩ := turn.adds
    obtain ⟨es', events, last⟩ := turn.entersLast
    have same := turn.sameCase
    refine h.tells (kept_prompt.task (t := t) h.toPrompt hs) same.script same.pacing rfl adds hm hm'
      ?_ events last
    intro v k pace waits
    exact turn.follows (pace.trans h.pace.symm) (fun due hdue => h.now_le_due hm hdue) waits
  settle {t ms c target} h quiet :=
    h.aside (aside_settle c target) (kept_prompt.settle (t := t) h.toPrompt quiet) rfl rfl
  chosen {t ms c value} h ok := by
    have prompt : (c.choose value).1.Prompt := kept_prompt.chosen (t := t) h.toPrompt ok
    obtain ⟨sc, number, o, sc', hm, -, -, eq, waits⟩ := choose_of_ok h.toOrderly ok
    obtain ⟨es, adds, -⟩ := c.stage.adds_accept (sc.reply number o) sc'
    obtain ⟨es', events, last⟩ := c.stage.entersLast_accept (sc.reply number o) sc'
    rw [eq] at prompt waits ⊢
    refine h.tells prompt ?_ ?_ rfl adds hm waits ?_ events ?_
    · exact congrArg Walk.script (Stage.walk_accept _)
    · show (c.stage.accept (sc.reply number o)).hearing.narrator.pacing = _
      rw [Stage.narrator_accept]
      rfl
    · rintro v k - ⟨⟩
    · show Mode.EntersLast _ (c.stage.accept (sc.reply number o)).agenda.now es'
      rw [Stage.agenda_accept]
      exact last
  refused {t ms c value e} h hv := by
    rw [choose_of_error h.toOrderly hv, news_self, List.append_nil]
    exact h
  annotate {t ms c} claim category h :=
    h.aside (aside_annotate c claim category)
      (kept_prompt.annotate (t := t) claim category h.toPrompt) rfl rfl
  finishLoad {t ms c} result h :=
    h.aside (aside_finishLoad c result) (kept_prompt.finishLoad (t := t) result h.toPrompt) rfl rfl
  takeEvents {t ms c} h :=
    h.aside (aside_takeEvents c) (kept_prompt.takeEvents (t := t) h.toPrompt) rfl
      (Transcript.told_takeEvents t c)

theorem timed_of_build {s : Setup} (h : s.build = .ok c) :
    c.Timed c.script c.stage.hearing.narrator.pacing {} [] := by
  refine ⟨prompt_of_build h, rfl, rfl, ?_, by simp, ?_⟩
  · obtain ⟨script, pacing, -, rfl⟩ := Setup.build_eq_ok h
    rfl
  · intro m _ x after name suffix
    cases List.suffix_nil.1 suffix

/-- Nothing is told while the clock is moved to a time but what has come by that time. -/
theorem Prompt.time_le_of_mem_runNews {x : Moment} (h : c.Prompt) (hx : x ∈ c.runNews target n) :
    x.time ≤ target := by
  induction n generalizing c with
  | zero => cases hx
  | succ n ih =>
    rw [runNews] at hx
    cases hs : c.step? target with
    | none => simp [hs] at hx
    | some d =>
      rw [hs] at hx
      rcases List.mem_append.1 hx with now | later
      · obtain ⟨m, hm⟩ := h.mode
        obtain ⟨m', turn, -⟩ := turn_of_step? h.sound hm hs
        obtain ⟨due, hdue, reached⟩ := (Option.any_eq_true _ _).1 (due_of_step?_eq_some hs)
        rw [nextDue?_of_in hm] at hdue
        obtain ⟨e, -, rfl⟩ := List.mem_map.1 now
        have time : d.now = due := h.now_of_turn hm hdue turn
        show d.now ≤ target
        rw [time]
        simpa using reached
      · exact ih (kept_prompt.task (t := {}) h hs) later

/-- When the clock has been moved to a time, all has been told that a timetable has up to it. -/
theorem Timed.doneBy (h : c.Timed script pacing t ms) (quiet : c.step? target = none)
    {x : Moment} {after : Chronicle} {name : String} (suffix : x :: after <:+ ms)
    (entered : x.event = .sceneEntered name) :
    ∃ sc, script.scene? name = some sc ∧ (x.visit pacing sc).OnTime after ∧
      (x.visit pacing sc).DoneBy target after := by
  obtain ⟨m, hm⟩ := h.mode
  obtain ⟨sc, found, follows⟩ := h.visits m hm x after name suffix entered
  refine ⟨sc, found, follows.onTime, follows.doneBy fun due hdue => ?_⟩
  rw [step?_eq_none_iff, nextDue?_of_in hm, hdue] at quiet
  exact Millis.not_le.1 (by simpa using quiet)

/-- However its host moves the clock, a conversation that was set up keeps to the timetable of each
visit of a scene: what its chronicle has after a scene was entered has each line at its time, and the
exit of the scene after the last of them at its own. Moving the clock to a time tells of nothing that
is to come later, and when it is done it has told of all that the timetables have up to that time. -/
theorem timetable_of_play {s : Setup} {c₀ : Conversation} {calls : List Call} {log : Log}
    (hb : s.build = .ok c₀) (h : c₀.play? limit calls = some (c, log)) :
    let ms := c₀.chronicle limit calls
    let pacing := c₀.stage.hearing.narrator.pacing
    ms.map (·.event) = (Transcript.ofLog log).told c ∧
    revealed (ms.map (·.event)) = c.history.toList ∧
    (∀ x ∈ ms, ∀ line, x.event = .lineRevealed line → line.createdAt = x.time) ∧
    (∀ x after name, x :: after <:+ ms → x.event = .sceneEntered name →
      ∃ sc, c₀.script.scene? name = some sc ∧ (x.visit pacing sc).OnTime after) ∧
    ∀ limit' target c', c.advanceTo? limit' target = some c' →
      (∀ x ∈ c.callNews limit' (.advanceTo target), x.time ≤ target) ∧
      ∀ x after name, x :: after <:+ ms ++ c.callNews limit' (.advanceTo target) →
        x.event = .sceneEntered name → ∃ sc, c₀.script.scene? name = some sc ∧
          (x.visit pacing sc).OnTime after ∧ (x.visit pacing sc).DoneBy target after := by
  intro ms pacing
  have timed : c.Timed c₀.script pacing (Transcript.ofLog log) ms :=
    chronicled_timed.play (timed_of_build hb) h
  have recorded : c.Recorded [] 0 (Transcript.ofLog log) :=
    kept_recorded.play (recorded_of_build hb) h
  refine ⟨timed.told, timed.told ▸ recorded.told, timed.stamped, ?_, ?_⟩
  · intro x after name suffix entered
    obtain ⟨m, hm⟩ := timed.mode
    obtain ⟨sc, found, follows⟩ := timed.visits m hm x after name suffix entered
    exact ⟨sc, found, follows.onTime⟩
  · intro limit' target c' moved
    refine ⟨fun x hx => timed.toPrompt.time_le_of_mem_runNews hx, ?_⟩
    intro x after name suffix entered
    have timed' := chronicled_timed.advanceTo timed moved
    exact timed'.doneBy (step?_of_advanceTo? moved) suffix entered

end Conversation

namespace Gated

/-- The verdict is given as soon as the case asks for it. -/
def verdictCalls : List Call := [.start, .advance 700, .runUntilIdle, .choose "guilty"]

/-- Asked at 1500, the case says its last line at 2600 and ends at 3100, so a host that looks in at
3000 is told of the line and of no end. -/
theorem timetable_of_guilty :
    ∃ c log x, (setupWith .standard .reference).build = .ok (openingWith .standard .reference) ∧
      (openingWith .standard .reference).play? 10 verdictCalls = some (c, log) ∧
      [x] <:+ (openingWith .standard .reference).chronicle 10 verdictCalls ∧
      x.event = .sceneEntered "after" ∧ x.time = 1500 ∧
      (x.visit .standard after).revealTime 0 = 2600 ∧ (x.visit .standard after).exitTime = 3100 ∧
      ∃ c', c.advanceTo? 10 3000 = some c' ∧
        (∀ y ∈ c.callNews 10 (.advanceTo 3000), y.time ≤ 3000) ∧
        (x.visit .standard after).OnTime (c.callNews 10 (.advanceTo 3000)) ∧
        (x.visit .standard after).DoneBy 3000 (c.callNews 10 (.advanceTo 3000)) := by
  obtain ⟨c, log, c', played, moved⟩ : ∃ c log c',
      (openingWith .standard .reference).play? 10 verdictCalls = some (c, log) ∧
        c.advanceTo? 10 3000 = some c' := ⟨_, _, _, rfl, rfl⟩
  obtain ⟨x, last, entered, time, reveal, exit⟩ : ∃ x,
      ((openingWith .standard .reference).chronicle 10 verdictCalls).getLast? = some x ∧
      x.event = .sceneEntered "after" ∧ x.time = 1500 ∧
      (x.visit .standard after).revealTime 0 = 2600 ∧ (x.visit .standard after).exitTime = 3100 :=
    ⟨_, rfl, rfl, by decide, by decide, by decide⟩
  obtain ⟨before, eq⟩ := List.getLast?_eq_some_iff.1 last
  obtain ⟨-, -, -, -, moves⟩ :=
    Conversation.timetable_of_play (build_setupWith .standard .reference) played
  obtain ⟨none_later, visits⟩ := moves 10 3000 c' moved
  have suffix : x :: c.callNews 10 (.advanceTo 3000) <:+
      (openingWith .standard .reference).chronicle 10 verdictCalls ++
        c.callNews 10 (.advanceTo 3000) := ⟨before, by rw [eq, List.append_assoc]; rfl⟩
  obtain ⟨sc, found, onTime, doneBy⟩ := visits x _ "after" suffix entered
  cases found
  exact ⟨c, log, x, build_setupWith _ _, played, ⟨before, eq.symm⟩, entered, time, reveal, exit, c',
    moved, none_later, onTime, doneBy⟩

end Gated

end Inquest
