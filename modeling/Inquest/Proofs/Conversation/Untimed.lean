import Inquest.Proofs.Conversation.Lockstep
import Inquest.Proofs.Conversation.Mode
import Inquest.Proofs.Dialogue.Untimed
/-!
# Conversations without their times

A host that never names a time, but waits until a conversation is idle, is told the same at any
pace. Such a run can be played without times: each call does what it does with them, and gives the
same answer but for the times in it.
-/

namespace Inquest

def Call.timed : Call → Bool
  | advance _ | advanceTo _ | sync _ => true
  | _ => false

def Answer.untimed : Answer → Answer
  | time _ => time 0
  | events batch => events (batch.map Event.untimed)
  | answer => answer

def Log.untimed (log : Log) : Log := log.map fun e => (e.1, e.2.untimed)

theorem Answer.batch_untimed (answer : Answer) :
    answer.untimed.batch = answer.batch.map Event.untimed := by
  cases answer <;> rfl

namespace Conversation

/-- The conversation without its times, which plays the script `outline`. -/
def untimed (outline : Script) (c : Conversation) : Conversation :=
  { c with stage := c.stage.untimed outline }

variable {outline : Script} {c c' d : Conversation} {m : Mode} {call : Call} {calls : List Call}
  {log : Log}

/-- A conversation that can be played without times as the script `outline`. -/
structure Outlined (outline : Script) (c : Conversation) : Prop where
  orderly : c.Orderly
  script : outline.Outlines c.script

theorem In.untimed (h : c.In m) (ho : outline.Outlines c.script) :
    (c.untimed outline).In m.untimed where
  stage := h.stage.untimed ho
  started := by
    refine Iff.trans h.started ?_
    cases m <;> simp [Mode.untimed]

theorem Outlined.sound (h : c.Outlined outline) : (c.untimed outline).script.Sound :=
  h.script.sound h.orderly.sound

/-- No move of a conversation changes its script. -/
theorem kept_outlined : Kept fun _ c => c.Outlined outline where
  start {t c} h := by
    have script : c.start.1.script = c.script := by
      obtain ⟨m, hm⟩ := h.orderly.mode
      by_cases fresh : m = .unstarted
      · subst fresh
        obtain ⟨sc, -, eq, -⟩ := start_of_unstarted h.orderly.sound hm
        rw [eq]
        rfl
      · rw [start_of_ne hm fresh]
    exact ⟨kept_orderly.start (t := t) h.orderly, script ▸ h.script⟩
  task {t c _ c'} h hs := by
    obtain ⟨m, hm⟩ := h.orderly.mode
    obtain ⟨m', turn, -⟩ := turn_of_step? h.orderly.sound hm hs
    have script : c'.script = c.script := turn.sameCase.script
    exact ⟨kept_orderly.task (t := t) h.orderly hs, script ▸ h.script⟩
  settle {t c _} h quiet := ⟨kept_orderly.settle (t := t) h.orderly quiet, h.script⟩
  chosen {t c value} h hv := by
    obtain ⟨sc, number, o, sc', -, -, -, eq, -⟩ := choose_of_ok h.orderly hv
    have script : (c.choose value).1.script = c.script := by
      rw [eq]
      exact congrArg Walk.script (Stage.walk_accept _)
    exact ⟨kept_orderly.chosen (t := t) h.orderly hv, script ▸ h.script⟩
  refused h hv := by
    rw [choose_of_error h.orderly hv]
    exact h
  annotate {t c} claim category h :=
    ⟨kept_orderly.annotate (t := t) claim category h.orderly, h.script⟩
  finishLoad {t c} result h := ⟨kept_orderly.finishLoad (t := t) result h.orderly, h.script⟩
  takeEvents {t c} h := ⟨kept_orderly.takeEvents (t := t) h.orderly, h.script⟩

/-- The first scene is entered in the same way without times. -/
theorem start_untimed (h : c.Outlined outline) :
    (c.untimed outline).start = (c.start.1.untimed outline, c.start.2) := by
  obtain ⟨m, hm⟩ := h.orderly.mode
  by_cases fresh : m = .unstarted
  · subst fresh
    obtain ⟨sc, found, eq, -⟩ := start_of_unstarted h.orderly.sound hm
    obtain ⟨sc', found', eq', -⟩ := start_of_unstarted h.sound (hm.untimed h.script)
    have same : sc' = sc.untimed := by
      have found' : outline.scene? outline.start = some sc' := found'
      rw [h.script.start, h.script.scene?, found] at found'
      exact (Option.some.inj found').symm
    -- Before the start nothing is planned, so the lead-in is the only task with times and without.
    have quiet : c.stage.agenda.pending = [] := congrArg Control.pending hm.stage.control
    have entered : (c.stage.entering sc).untimed outline =
        (c.stage.untimed outline).entering sc.untimed := Stage.untimed_entering quiet
    rw [eq, eq', same]
    simp only [untimed, entered]
  · have later : m.untimed ≠ .unstarted := by cases m <;> simp_all [Mode.untimed]
    rw [start_of_ne hm fresh, start_of_ne (hm.untimed h.script) later]

theorem nextDue?_untimed : (c.untimed outline).nextDue? = c.nextDue?.map fun _ => 0 := by
  simp [nextDue?, untimed, Stage.untimed, Agenda.untimed, Agenda.nextDue?, Timer.untimed,
    Function.comp_def]

/-- The next task does the same without times. -/
theorem step?_untimed (h : c.Outlined outline) :
    (c.untimed outline).step? .last = (c.step? .last).map (untimed outline) := by
  -- A wait for idleness runs to the end of time, where a task is due whenever one is planned.
  have due : (c.untimed outline).nextDue?.any (· ≤ .last) = c.nextDue?.any (· ≤ .last) := by
    rw [nextDue?_any_last, nextDue?_any_last, nextDue?_untimed, Option.isSome_map]
  obtain ⟨m, hm⟩ := h.orderly.mode
  exact step?_map (f := Stage.untimed outline) h.orderly.sound hm h.sound (hm.untimed h.script)
    (fun turn => ⟨_, turn.untimed h.script⟩) due

/-- However many tasks are run, they do the same without times. -/
theorem run_untimed (h : c.Outlined outline) (n : Nat) :
    (c.untimed outline).run .last n = (c.run .last n).untimed outline :=
  run_map (f := untimed outline) (fun h hs => kept_outlined.task (t := {}) h hs) step?_untimed h n

/-- The player's choice does the same without times. -/
theorem choose_untimed (h : c.Outlined outline) (value : String) :
    (c.untimed outline).choose value =
      ((c.choose value).1.untimed outline, (c.choose value).2) := by
  obtain ⟨m, hm⟩ := h.orderly.mode
  rcases decision?_of_in hm with none | ⟨sc, number, rfl⟩
  · have eq := choose_of_decision?_eq_none none value
    have eq' := choose_of_decision?_eq_none (c := c.untimed outline) none value
    rw [eq, eq']
  · have hm' := hm.untimed h.script
    cases ho : sc.exit.options.find? (·.value = value) with
    | none =>
      have eq := choose_of_find?_eq_none h.orderly.sound hm ho
      have eq' := choose_of_find?_eq_none h.sound hm' ho
      rw [eq, eq']
    | some o =>
      obtain ⟨sc', found, eq, -⟩ := choose_of_find?_eq_some h.orderly.sound hm ho
      obtain ⟨sc'', found', eq', -⟩ := choose_of_find?_eq_some h.sound hm' ho
      have same : sc'' = sc'.untimed := by
        have found' : outline.scene? o.next = some sc'' := found'
        rw [h.script.scene?, found] at found'
        exact (Option.some.inj found').symm
      -- Nothing is planned beside a decision either.
      have quiet : (c.stage.accept (sc.reply number o)).agenda.pending = [] := by
        rw [Stage.agenda_accept]
        exact congrArg Control.pending hm.stage.control
      have entered : ((c.stage.accept (sc.reply number o)).entering sc').untimed outline =
          ((c.stage.untimed outline).accept (sc.reply number o)).entering sc'.untimed := by
        rw [Stage.untimed_entering quiet, Stage.accept_untimed]
      rw [eq, eq', same]
      simp only [untimed, entered]
      rfl

/-- A click does the same without times. -/
theorem click_untimed (claim : ClaimId) (highlighter : Option Category) :
    (c.untimed outline).click claim highlighter =
      ((c.click claim highlighter).1.untimed outline, (c.click claim highlighter).2) := by
  have revealed : (c.untimed outline).revealed? claim = c.revealed? claim := rfl
  simp only [click, revealed]
  cases (c.revealed? claim).bind (·.source) with
  | some source => rfl
  | none => cases highlighter <;> rfl

/-- A call that names no time returns, and does the same without times. -/
theorem perform?_untimed (h : c.Outlined outline) (hc : call.timed = false) (limit : Nat) :
    ∃ d answer, c.perform? limit call = some (d, answer) ∧
      (c.untimed outline).perform? limit call = some (d.untimed outline, answer.untimed) := by
  cases call with
  | advance | advanceTo | sync => cases hc
  | start => exact ⟨_, _, rfl, by rw [perform?, start_untimed h]; rfl⟩
  | runUntilIdle => exact ⟨_, _, rfl, by rw [perform?, runUntilIdle, run_untimed h]; rfl⟩
  | choose value => exact ⟨_, _, rfl, by rw [perform?, choose_untimed h]; rfl⟩
  | annotate claim category => exact ⟨_, _, rfl, rfl⟩
  | click claim highlighter => exact ⟨_, _, rfl, by rw [perform?, click_untimed]; rfl⟩
  | finishLoad result => exact ⟨_, _, rfl, rfl⟩
  | takeEvents =>
    have batch : (c.untimed outline).takeEvents.2.toList =
        c.takeEvents.2.toList.map Event.untimed := Array.toList_map
    have rest : (c.untimed outline).takeEvents.1 = c.takeEvents.1.untimed outline := by
      simp [takeEvents, untimed, Stage.untimed]
    exact ⟨_, _, rfl, by rw [perform?, batch, rest]; rfl⟩

/-- A run whose calls name no time does the same without times. -/
theorem play?_untimed (h : c.Outlined outline) (hc : ∀ call ∈ calls, call.timed = false)
    (limit : Nat) :
    ∃ d log, c.play? limit calls = some (d, log) ∧
      (c.untimed outline).play? limit calls = some (d.untimed outline, log.untimed) := by
  induction calls generalizing c with
  | nil => exact ⟨c, [], rfl, rfl⟩
  | cons call calls ih =>
    obtain ⟨x, answer, hx, hx'⟩ := perform?_untimed h (hc call List.mem_cons_self) limit
    have later : x.Outlined outline := kept_outlined.perform (t := {}) h hx
    obtain ⟨d, log, hd, hd'⟩ := ih later fun call' h => hc call' (List.mem_cons_of_mem _ h)
    exact ⟨d, (call, answer) :: log, play?_cons.2 ⟨x, answer, log, hx, hd, rfl⟩,
      play?_cons.2 ⟨_, _, _, hx', hd', rfl⟩⟩

/-- Without times a run tells the same events, but for the times in them. -/
theorem told_untimed : (Transcript.ofLog log.untimed).told (c.untimed outline) =
    ((Transcript.ofLog log).told c).map Event.untimed := by
  have waiting : (c.untimed outline).stage.events.toList =
      c.stage.events.toList.map Event.untimed := Array.toList_map
  rw [Transcript.told, Transcript.told, Transcript.taken_ofLog, Transcript.taken_ofLog, waiting,
    List.map_append]
  congr 1
  simp [Log.untimed, List.flatMap_map, List.map_flatMap, Answer.batch_untimed]

/-- The conversations play scripts that differ in their lead-ins at most, with the same answers and
about the same suspect. -/
structure Retimed (c c' : Conversation) : Prop where
  start : c'.script.start = c.script.start
  scenes : ∀ name,
    (c'.script.scene? name).map Scene.untimed = (c.script.scene? name).map Scene.untimed
  store : c'.store = c.store
  suspect : c'.stage.walk.suspect = c.stage.walk.suspect

/-- Conversations that were set up to differ in their times only are the same without them. -/
theorem Retimed.untimed_eq {s s' : Setup} (h : c.Retimed c') (hb : s.build = .ok c)
    (hb' : s'.build = .ok c') (outline : Script) : c'.untimed outline = c.untimed outline := by
  obtain ⟨script, pacing, -, rfl⟩ := Setup.build_eq_ok hb
  obtain ⟨script', pacing', -, rfl⟩ := Setup.build_eq_ok hb'
  have store : s'.loadStore = s.loadStore := h.store
  have suspect : s'.suspect.getD script'.suspect = s.suspect.getD script.suspect := h.suspect
  simp only [Stage.opening, store, suspect]
  rfl

theorem Retimed.outlined {s s' : Setup} (h : c.Retimed c') (hb : s.build = .ok c)
    (hb' : s'.build = .ok c') :
    c.Outlined c.script.untimed ∧ c'.Outlined c.script.untimed := by
  have outlines := c.script.outlines_untimed
  refine ⟨⟨orderly_of_build hb, outlines⟩, orderly_of_build hb', ?_, fun name => ?_⟩
  · rw [h.start]
    rfl
  · rw [h.scenes, outlines.scene?]

/-- Two conversations are in the same state, but for times. -/
structure EqButTimes (c c' : Conversation) : Prop where
  history : c'.history.map Line.untimed = c.history.map Line.untimed
  decision : c'.decision? = c.decision?
  scene : c'.scene? = c.scene?
  marks : c'.marks = c.marks
  ruling : c'.stage.hearing.ruling = c.stage.hearing.ruling
  reported : c'.reported = c.reported
  typing : c'.isTyping = c.isTyping
  finished : c'.isFinished = c.isFinished
  closed : c'.isClosed = c.isClosed
  /-- Either both have a task planned or neither has. -/
  planned : c'.nextDue?.isSome = c.nextDue?.isSome

theorem eqButTimes_of_untimed_eq (h : c'.untimed outline = c.untimed outline) :
    c.EqButTimes c' where
  history := (congrArg history h :)
  decision := (congrArg decision? h :)
  scene := (congrArg scene? h :)
  marks := (congrArg marks h :)
  ruling := (congrArg (·.stage.hearing.ruling) h :)
  reported := (congrArg reported h :)
  typing := (congrArg isTyping h :)
  finished := by
    have finished : ∀ c : Conversation, (c.untimed outline).isFinished = c.isFinished := by
      simp [isFinished, Hearing.isFinished, Hearing.hasDecision, untimed, Stage.untimed,
        Narrator.untimed, Array.isEmpty]
    rw [← finished, h, finished]
  closed := (congrArg isClosed h :)
  planned := by
    have planned := congrArg (·.nextDue?.isSome) h
    simpa only [nextDue?_untimed, Option.isSome_map] using planned

variable {c₀ c₀' : Conversation}

/-- Two conversations were set up to differ in their pace and in the lead-ins of their scenes only.
A host that names no time can make any calls on both, waits for idleness among them, even if a wait
stops before everything planned has been run. Both give the same answers, tell the same and are in
the same state, but for times. -/
theorem eqButTimes_of_retimed {s s' : Setup} (hb : s.build = .ok c₀) (hb' : s'.build = .ok c₀')
    (retimed : c₀.Retimed c₀') (untimed : ∀ call ∈ calls, call.timed = false) (limit : Nat) :
    ∃ c log c' log', c₀.play? limit calls = some (c, log) ∧
      c₀'.play? limit calls = some (c', log') ∧ log'.untimed = log.untimed ∧
      ((Transcript.ofLog log').told c').map Event.untimed =
        ((Transcript.ofLog log).told c).map Event.untimed ∧ c.EqButTimes c' := by
  obtain ⟨outlined, outlined'⟩ := retimed.outlined hb hb'
  obtain ⟨c, log, hc, run⟩ := play?_untimed outlined untimed limit
  obtain ⟨c', log', hc', run'⟩ := play?_untimed outlined' untimed limit
  rw [retimed.untimed_eq hb hb', run, Option.some.injEq, Prod.mk.injEq] at run'
  obtain ⟨state, logs⟩ := run'
  refine ⟨c, log, c', log', hc, hc', logs.symm, ?_, eqButTimes_of_untimed_eq state.symm⟩
  rw [← told_untimed, ← told_untimed, ← state, logs]

end Conversation

namespace Gated

/-- The case without lead-ins, for a typist whose shortest time for a line is above the longest. -/
def briskSetup : Setup :=
  { script := .given script.untimed, pacing := .given ⟨7, 900, 20, 1⟩, store := .given .reference }

def briskOpening : Conversation :=
  { stage := .opening script.untimed ⟨7, 900, 20, 1⟩ .reference none }

theorem build_briskSetup : briskSetup.build = .ok briskOpening :=
  Setup.build_of_given (script.outlines_untimed.sound sound_script) rfl rfl

/-- The verdict, at whatever pace the case is told. -/
def unhurried : List Call :=
  [.start, .runUntilIdle, .choose "guilty", .runUntilIdle, .annotate 3 .supported]

/-- The case at two paces ends at different times, and is the same but for them. -/
theorem eqButTimes_of_brisk :
    ∃ c log c' log',
      (setupWith .standard .reference).build = .ok (openingWith .standard .reference) ∧
      briskSetup.build = .ok briskOpening ∧
      (openingWith .standard .reference).Retimed briskOpening ∧
      (∀ call ∈ unhurried, call.timed = false) ∧
      (openingWith .standard .reference).play? 0 unhurried = some (c, log) ∧
      briskOpening.play? 0 unhurried = some (c', log') ∧ c.isClosed ∧ c.now = 3100 ∧ c'.now = 42 ∧
      log'.untimed = log.untimed ∧ c.EqButTimes c' := by
  have scenes : ∀ name, (script.untimed.scene? name).map Scene.untimed =
      (script.scene? name).map Scene.untimed := by
    intro name
    rw [script.outlines_untimed.scene?, Option.map_map]
    rfl
  have retimed : (openingWith .standard .reference).Retimed briskOpening :=
    ⟨rfl, scenes, rfl, rfl⟩
  have untimed : ∀ call ∈ unhurried, call.timed = false := by decide
  obtain ⟨c, log, c', log', played, played', logs, -, same⟩ :=
    Conversation.eqButTimes_of_retimed (build_setupWith .standard .reference) build_briskSetup
      retimed untimed 0
  refine ⟨c, log, c', log', build_setupWith _ _, build_briskSetup, retimed, untimed, played,
    played', ?_, ?_, ?_, logs, same⟩
  · cases played
    rfl
  · cases played
    decide
  · cases played'
    decide

end Gated

end Inquest
