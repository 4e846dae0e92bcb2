import Inquest.Proofs.Conversation.Mode
import Inquest.Proofs.Dialogue.Story
/-!
# The story of a conversation

What a conversation tells, however its host moves the clock, is the beginning of the story of its
script for the options that were picked. Once nothing is planned it is all of the story that the
picks so far allow.
-/

namespace Inquest

namespace Conversation

/-- A conversation with the given script and suspect that has told, for each plot that fits it, what
its mode says. -/
structure Tells (script : Script) (suspect : String) (t : Transcript) (c : Conversation) :
    Prop where
  script : c.script = script
  suspect : c.stage.walk.suspect = suspect
  sound : c.script.Sound
  mode : ∃ m, c.In m ∧ ∀ p : Plot, p.Fits c.stage →
    m.Told p c.stage.memory t.picks ((t.told c).map Event.bare)

variable {script : Script} {suspect : String} {t : Transcript} {c c' : Conversation}

theorem Tells.orderly (h : c.Tells script suspect t) : c.Orderly :=
  ⟨h.sound, h.mode.imp fun _ hm => hm.1⟩

/-- When the first scene is entered, its story begins. -/
theorem Tells.start (h : c.Tells script suspect t) : c.start.1.Tells script suspect t := by
  obtain ⟨m, hm, told⟩ := h.mode
  by_cases fresh : m = .unstarted
  · subst fresh
    obtain ⟨sc, found, eq, waits⟩ := start_of_unstarted h.sound hm
    have name : sc.name = c.script.start := (Script.mem_of_scene? found).2
    refine ⟨?_, ?_, ?_, _, waits, fun p fits => ?_⟩ <;> rw [eq] at *
    · exact h.script
    · exact h.suspect
    · exact h.sound
    · obtain ⟨picks, seen, memory⟩ := told p ⟨fits.script, fits.suspect, fits.tally⟩
      have first : sc.name = p.script.start := by rw [fits.script, name]; rfl
      have leads : p.Leads t.picks [] c.stage.memory sc.name := by
        rw [picks, memory, first]
        exact Plot.leads_start
      refine ⟨[], leads, ?_⟩
      rw [Transcript.told, Stage.toList_events_entering, ← List.append_assoc, List.map_append]
      exact congrArg (· ++ _) seen
  · rw [start_of_ne hm fresh]
    exact h

/-- A task tells the next part of the story. -/
theorem Tells.task (h : c.Tells script suspect t) {target : Millis}
    (hs : c.step? target = some c') : c'.Tells script suspect t := by
  obtain ⟨m, hm, told⟩ := h.mode
  obtain ⟨m', turn, hm'⟩ := turn_of_step? h.sound hm hs
  have same := turn.sameCase
  have script : c'.script = c.script := same.script
  refine ⟨script.trans h.script, same.suspect.trans h.suspect, script ▸ h.sound, m', hm',
    fun p fits => ?_⟩
  have fits : p.Fits c.stage := ⟨fits.script.trans same.script, fits.suspect.trans same.suspect,
    fun r hr => fits.tally r (same.ruling.trans hr)⟩
  obtain ⟨es, events, goes_on⟩ := turn.told hm.stage fits (told p fits)
  rw [Transcript.told, events, ← List.append_assoc, List.map_append]
  exact goes_on

/-- A choice that is accepted tells the next part of the story. -/
theorem Tells.chosen (h : c.Tells script suspect t) {value : String}
    (hv : (c.choose value).2 = .ok ()) :
    (c.choose value).1.Tells script suspect { t with picks := t.picks ++ [value] } := by
  obtain ⟨m, hm, told⟩ := h.mode
  obtain ⟨sc, number, o, sc', asks, ho, found, eq, waits⟩ := choose_of_ok h.orderly hv
  obtain rfl : m = .asking sc number := hm.unique asks
  have name : sc'.name = o.next := (Script.mem_of_scene? found).2
  have walk : (c.choose value).1.stage.walk = c.stage.walk := by
    rw [eq]
    exact Stage.walk_accept _
  have script : (c.choose value).1.script = c.script := congrArg Walk.script walk
  refine ⟨script.trans h.script, (congrArg Walk.suspect walk).trans h.suspect, script ▸ h.sound, _,
    waits, fun p fits => ?_⟩
  rw [eq] at fits ⊢
  have accepted : p.Fits (c.stage.accept (sc.reply number o)) :=
    ⟨fits.script, fits.suspect, fits.tally⟩
  have before : p.Fits c.stage := by
    refine ⟨?_, ?_, fun r hr => accepted.tally r ?_⟩
    · rw [accepted.script, Stage.walk_accept]
    · rw [accepted.suspect, Stage.walk_accept]
    · rw [Stage.ruling_accept, hr]
      rfl
  obtain ⟨es, events, goes_on⟩ := Stage.told_accept hm.stage ho name accepted (told p before)
  rw [Transcript.told, events, ← List.append_assoc, List.map_append]
  exact goes_on

/-- What tells nothing leaves what has been told. -/
theorem Tells.aside (h : c.Tells script suspect t) (a : c.Aside c') {t' : Transcript}
    (told : t'.told c' = t.told c) (picks : t'.picks = t.picks) : c'.Tells script suspect t' where
  script := a.script.trans h.script
  suspect := a.suspect.trans h.suspect
  sound := a.script ▸ h.sound
  mode := by
    obtain ⟨m, hm, tells⟩ := h.mode
    refine ⟨m, hm.aside a, fun p fits => ?_⟩
    have memory : c'.stage.memory = c.stage.memory := by
      simp only [Stage.memory, a.ruling, a.nextDecision]
    rw [memory, told, picks]
    exact tells p ⟨fits.script.trans a.script, fits.suspect.trans a.suspect,
      fun r hr => fits.tally r (a.ruling.trans hr)⟩

/-- Whatever the host does, a conversation has told what its mode says. -/
theorem kept_tells : Kept (fun t c => c.Tells script suspect t) where
  start h := h.start
  task h hs := h.task hs
  settle h _ := h.aside (aside_settle _ _) rfl rfl
  chosen h hv := h.chosen hv
  refused h hv := by
    rw [choose_of_error h.orderly hv]
    exact h
  annotate claim category h := h.aside (aside_annotate _ claim category) rfl rfl
  finishLoad result h := h.aside (aside_finishLoad _ result) rfl rfl
  takeEvents h := h.aside (aside_takeEvents _) (by simp [Transcript.told, takeEvents]) rfl

theorem tells_of_build {s : Setup} (h : s.build = .ok c) :
    c.Tells c.script c.stage.walk.suspect {} := by
  obtain ⟨script, pacing, sound, rfl⟩ := Setup.build_eq_ok h
  refine ⟨rfl, rfl, sound, .unstarted, ⟨⟨rfl, rfl, nofun, trivial⟩, by simp⟩, fun p _ => ?_⟩
  exact ⟨rfl, rfl, rfl⟩

/-- Whatever its host does, a conversation that was set up tells the beginning of the story of its
script for the options that were picked, and all of it once nothing is planned. A scene's lines are
filled with the counts that the first verdict locked in. -/
theorem told_prefix_story {s : Setup} {c₀ : Conversation} {limit : Nat} {calls : List Call}
    {log : Log} (hb : s.build = .ok c₀) (h : c₀.play? limit calls = some (c, log)) :
    let t := Transcript.ofLog log
    let p : Plot := ⟨c₀.script, c₀.stage.walk.suspect, c.accuracy?.getD {}⟩
    ∃ N, ∀ n ≥ N,
      (∀ more, (t.told c).map Event.bare <+: p.story n {} p.script.start (t.picks ++ more)) ∧
      (c.started = true → c.nextDue? = none →
        (t.told c).map Event.bare = p.story n {} p.script.start t.picks) := by
  intro t p
  have tells : c.Tells c₀.script c₀.stage.walk.suspect t := kept_tells.play (tells_of_build hb) h
  obtain ⟨m, hm, told⟩ := tells.mode
  have fits : p.Fits c.stage := by
    refine ⟨tells.script.symm, tells.suspect.symm, fun r hr => ?_⟩
    simp [p, accuracy?, Hearing.accuracy?, hr]
  have known : ∀ sc, m.scene? = some sc → p.script.scene? sc.name = some sc := by
    intro sc hsc
    rw [fits.script]
    exact hm.stage.known sc hsc
  obtain ⟨N, hN⟩ := Plot.prefix_story known hm.stage.exit (told p fits)
  refine ⟨N, fun n hn => ⟨(hN n hn).1, fun started quiet => ?_⟩⟩
  have pending : c.stage.agenda.pending = m.control.pending :=
    congrArg Control.pending hm.stage.control
  have idle : m.control.pending = [] := by
    rw [← pending]
    simpa [nextDue?, Agenda.nextDue?] using quiet
  exact (hN n hn).2 (hm.started.1 started) idle

end Conversation

namespace Gated

/-- The case with the verdict given, up to its end. -/
theorem told_prefix_story_of_guilty :
    ∃ c log, setup.build = .ok opening ∧
      opening.play? 10 [.start, .runUntilIdle, .choose "guilty", .takeEvents, .runUntilIdle] =
        some (c, log) ∧
      c.isClosed ∧ (Transcript.ofLog log).picks = ["guilty"] ∧
      let t := Transcript.ofLog log
      let p : Plot := ⟨script, "Flora Jasmine", c.accuracy?.getD {}⟩
      ∃ N, ∀ n ≥ N,
        (∀ more, (t.told c).map Event.bare <+: p.story n {} p.script.start (t.picks ++ more)) ∧
        (c.started = true → c.nextDue? = none →
          (t.told c).map Event.bare = p.story n {} p.script.start t.picks) :=
  ⟨_, _, build_setup, rfl, rfl, rfl,
    Conversation.told_prefix_story build_setup
      (show opening.play? 10 [.start, .runUntilIdle, .choose "guilty", .takeEvents, .runUntilIdle] =
        some _ from rfl)⟩

end Gated

end Inquest
