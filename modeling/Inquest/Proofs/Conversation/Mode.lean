import Inquest.Proofs.Conversation.Calls
import Inquest.Proofs.Dialogue.Reply
import Inquest.Proofs.Results
import Mathlib.Logic.ExistsUnique
/-!
# Modes of a conversation

A conversation that was set up is in exactly one mode, whatever its host does, and it is never
stuck: until its end it can be started, or has a task planned, or has an answer to take. Each
elementary move is described here by the modes before and after it.
-/

namespace Inquest

/-- A script is not played unless it was checked. -/
theorem Setup.check_of_loadScript {s : Setup} {script : Script} (h : s.loadScript = .ok script) :
    script.check = .ok () := by
  have checked : ∀ read : Except ScriptError Script,
      (do let script ← read; script.check; return script) = .ok script → script.check = .ok () := by
    intro read hr
    obtain ⟨script, -, rest⟩ := bind_eq_ok_iff.1 hr
    obtain ⟨⟨⟩, checked, ⟨⟩⟩ := bind_eq_ok_iff.1 rest
    exact checked
  unfold loadScript at h
  cases hs : s.script <;> rw [hs] at h <;> exact checked _ h

/-- A conversation that was set up plays a sound script from the beginning. -/
theorem Setup.build_eq_ok {s : Setup} {c : Conversation} (h : s.build = .ok c) :
    ∃ script pacing, script.Sound ∧ c = ⟨.opening script pacing s.loadStore s.suspect, false⟩ := by
  obtain ⟨script, loaded, rest⟩ := bind_eq_ok_iff.1 h
  obtain ⟨pacing, -, ⟨⟩⟩ := bind_eq_ok_iff.1 rest
  have checked := check_of_loadScript (mapError_eq_ok_iff.1 loaded)
  exact ⟨script, pacing, Script.check_eq_ok_iff.1 checked, rfl⟩

/-- A conversation can be set up with any sound script at any pace. -/
theorem Setup.build_of_given {s : Setup} {script : Script} {pacing : Pacing}
    (sound : script.Sound) (hs : s.script = .given script) (hp : s.pacing = .given pacing) :
    s.build = .ok ⟨.opening script pacing s.loadStore s.suspect, false⟩ := by
  have checked : script.check = .ok () := Script.check_eq_ok_iff.2 sound
  simp [build, loadScript, loadPacing, hs, hp, checked, bind, Except.bind, pure, Except.pure,
    Except.mapError]

namespace Conversation

/-- The conversation is in the mode, and it was started unless the mode says otherwise. -/
structure In (c : Conversation) (m : Mode) : Prop where
  stage : c.stage.In m
  started : c.started = true ↔ m ≠ .unstarted

/-- A conversation that plays a sound script and is in some mode. -/
structure Orderly (c : Conversation) : Prop where
  sound : c.script.Sound
  mode : ∃ m, c.In m

variable {c c' : Conversation} {m : Mode}

theorem In.unique {m' : Mode} (h : c.In m) (h' : c.In m') : m = m' := h.stage.unique h'.stage

/-- Starting a conversation that was started does nothing. -/
theorem start_of_ne (h : c.In m) (hm : m ≠ .unstarted) : c.start = (c, .ok ()) := by
  simp [start, h.started.2 hm]

/-- Starting a conversation enters the first scene. -/
theorem start_of_unstarted (sound : c.script.Sound) (h : c.In .unstarted) :
    ∃ sc, c.script.scene? c.script.start = some sc ∧
      c.start = (⟨c.stage.entering sc, true⟩, .ok ()) ∧
      c.start.1.In (.leadIn sc (c.now + sc.leadIn)) := by
  obtain ⟨sc, found⟩ := Script.hasScene_iff.1 sound.start
  have name : sc.name = c.script.start := (Script.mem_of_scene? found).2
  have fresh : c.started = false := by simpa using h.started
  have eq : c.start = (⟨c.stage.entering sc, true⟩, .ok ()) := by
    have entered := Stage.enter_of_scene? (s := c.stage) found
    simp only [start, fresh, Bool.false_eq_true, ↓reduceIte, Stage.start]
    exact congrArg (fun r => ((⟨r.1, true⟩ : Conversation), r.2)) entered
  refine ⟨sc, found, eq, ?_⟩
  rw [eq]
  exact ⟨Stage.in_entering h.stage.control (name ▸ found), by simp⟩

/-- Running a task makes a turn. -/
theorem turn_of_step? (sound : c.script.Sound) (h : c.In m) {target : Millis}
    (hs : c.step? target = some c') : ∃ m', c.stage.Turn m m' c'.stage ∧ c'.In m' := by
  unfold step? at hs
  split at hs
  · cases hs
  · rename_i task agenda hp
    cases hs
    obtain ⟨m', turn⟩ := Stage.turn_of_popDue? sound h.stage hp
    obtain ⟨before, after⟩ := turn.ne_unstarted
    exact ⟨m', turn, turn.in sound h.stage, iff_of_true (h.started.2 before) after⟩

/-- A turn that can be made is the one that running the next task makes. -/
theorem step?_of_turn {m' : Mode} {t : Stage} {target : Millis} (sound : c.script.Sound)
    (h : c.In m) (turn : c.stage.Turn m m' t) (due : c.nextDue?.any (· ≤ target)) :
    c.step? target = some { c with stage := t } := by
  cases hs : c.step? target with
  | none => exact absurd due (step?_eq_none_iff.1 hs)
  | some d =>
    obtain ⟨m'', turn', hd⟩ := turn_of_step? sound h hs
    have stage : d.stage = t := turn'.unique turn
    have started : d.started = c.started := by
      rw [h.started.2 turn.ne_unstarted.1, hd.started.2 turn'.ne_unstarted.2]
    cases d
    cases stage
    cases started
    rfl

/-- A change of the stage under which it makes the same turns: the next task does the same after
the change, if it is due then too. -/
theorem step?_map {f : Stage → Stage} {m₁ : Mode} {target : Millis} (sound : c.script.Sound)
    (h : c.In m) (sound' : ({ c with stage := f c.stage } : Conversation).script.Sound)
    (h' : ({ c with stage := f c.stage } : Conversation).In m₁)
    (turn : ∀ {m' t}, c.stage.Turn m m' t → ∃ m'', (f c.stage).Turn m₁ m'' (f t))
    (due : ({ c with stage := f c.stage } : Conversation).nextDue?.any (· ≤ target) =
      c.nextDue?.any (· ≤ target)) :
    ({ c with stage := f c.stage } : Conversation).step? target =
      (c.step? target).map fun d => { d with stage := f d.stage } := by
  cases hs : c.step? target with
  | none =>
    rw [step?_eq_none_iff, ← due, ← step?_eq_none_iff] at hs
    exact hs
  | some d =>
    obtain ⟨m', made, -⟩ := turn_of_step? sound h hs
    have ready := due_of_step?_eq_some hs
    have eq : d = { c with stage := d.stage } := by
      have stepped := step?_of_turn sound h made ready
      rw [hs] at stepped
      exact Option.some.inj stepped
    obtain ⟨m'', made'⟩ := turn made
    have stepped := step?_of_turn sound' h' made' (due ▸ ready)
    rw [stepped, eq]
    rfl

/-- A choice is refused, and changes nothing, while no decision is on screen. -/
theorem choose_of_decision?_eq_none (h : c.decision? = none) (value : String) :
    c.choose value = (c, .error .noPendingDecision) := by
  rw [choose, Stage.resolve_of_error (Stage.reply?_of_shown_eq_none h value)]

/-- A choice of a value that no option has is refused and changes nothing. -/
theorem choose_of_find?_eq_none {sc : Scene} {number : Nat} {value : String}
    (sound : c.script.Sound) (h : c.In (.asking sc number))
    (ho : sc.exit.options.find? (·.value = value) = none) :
    c.choose value = (c, .error (.unknownOption value)) := by
  have refused : c.stage.reply? value = .error (.unknownOption value) := by
    rw [Stage.reply?_of_asking sound h.stage, ho]
  rw [choose, Stage.resolve_of_error refused]

/-- A choice of the value of an option is accepted and enters the scene of the option. -/
theorem choose_of_find?_eq_some {sc : Scene} {number : Nat} {value : String} {o : GateOption}
    (sound : c.script.Sound) (h : c.In (.asking sc number))
    (ho : sc.exit.options.find? (·.value = value) = some o) :
    ∃ sc', c.script.scene? o.next = some sc' ∧
      c.choose value =
        ({ c with stage := (c.stage.accept (sc.reply number o)).entering sc' }, .ok ()) ∧
      (c.choose value).1.In (.leadIn sc' (c.now + sc'.leadIn)) := by
  obtain ⟨sc', found, eq, waits⟩ := Stage.resolve_of_asking sound h.stage ho
  refine ⟨sc', found, by rw [choose, eq], ?_⟩
  rw [choose, eq]
  exact ⟨waits, iff_of_true (h.started.2 nofun) nofun⟩

/-- A decision is on screen exactly if a gate asks for it. -/
theorem decision?_of_in (h : c.In m) :
    c.decision? = none ∨ ∃ sc number, m = .asking sc number := by
  have shown : c.decision? = m.control.shown := congrArg Control.shown h.stage.control
  cases m with
  | asking sc number => exact .inr ⟨sc, number, rfl⟩
  | _ => exact .inl shown

/-- The decision on screen is the one that the gate asks for. -/
theorem decision?_of_asking {sc : Scene} {number : Nat} (h : c.In (.asking sc number)) :
    c.decision? = some (Mode.decision sc number) := congrArg Control.shown h.stage.control

/-- Starting a conversation is never refused. -/
theorem start_of_orderly (o : c.Orderly) : c.start.2 = .ok () := by
  obtain ⟨m, hm⟩ := o.mode
  by_cases fresh : m = .unstarted
  · subst fresh
    obtain ⟨sc, -, eq, -⟩ := start_of_unstarted o.sound hm
    rw [eq]
  · rw [start_of_ne hm fresh]

/-- A choice that is refused changes nothing. -/
theorem choose_of_error (o : c.Orderly) {value : String} {e : ChoiceError}
    (h : (c.choose value).2 = .error e) : (c.choose value).1 = c := by
  obtain ⟨m, hm⟩ := o.mode
  rcases decision?_of_in hm with none | ⟨sc, number, rfl⟩
  · rw [choose_of_decision?_eq_none none]
  · cases ho : sc.exit.options.find? (·.value = value) with
    | none => rw [choose_of_find?_eq_none o.sound hm ho]
    | some o' =>
      obtain ⟨sc', -, eq, -⟩ := choose_of_find?_eq_some o.sound hm ho
      rw [eq] at h
      cases h

/-- A choice that is accepted picks an option of the gate that asks. -/
theorem choose_of_ok (o : c.Orderly) {value : String} (h : (c.choose value).2 = .ok ()) :
    ∃ sc number o' sc', c.In (.asking sc number) ∧
      sc.exit.options.find? (·.value = value) = some o' ∧ c.script.scene? o'.next = some sc' ∧
      (c.choose value).1 =
        { c with stage := (c.stage.accept (sc.reply number o')).entering sc' } ∧
      (c.choose value).1.In (.leadIn sc' (c.now + sc'.leadIn)) := by
  obtain ⟨m, hm⟩ := o.mode
  rcases decision?_of_in hm with none | ⟨sc, number, rfl⟩
  · rw [choose_of_decision?_eq_none none] at h
    cases h
  · cases ho : sc.exit.options.find? (·.value = value) with
    | none =>
      rw [choose_of_find?_eq_none o.sound hm ho] at h
      cases h
    | some o' =>
      obtain ⟨sc', found, eq, waits⟩ := choose_of_find?_eq_some o.sound hm ho
      exact ⟨sc, number, o', sc', hm, ho, found, by rw [eq], waits⟩

/-- What settling the clock, marking a claim, a load of answers and taking events leave alone. -/
structure Aside (c c' : Conversation) : Prop where
  control : c'.stage.control = c.stage.control
  scene : c'.stage.hearing.scene = c.stage.hearing.scene
  nextDecision : c'.stage.hearing.nextDecision = c.stage.hearing.nextDecision
  ruling : c'.stage.hearing.ruling = c.stage.hearing.ruling
  script : c'.script = c.script
  suspect : c'.stage.walk.suspect = c.stage.walk.suspect
  reported : c'.reported = c.reported
  started : c'.started = c.started

theorem aside_settle (c : Conversation) (target : Millis) : c.Aside (c.settle target) := by
  constructor <;> rfl
theorem aside_annotate (c : Conversation) (claim : ClaimId) (category : Category) :
    c.Aside (c.annotate claim category).1 := by
  constructor <;> rfl
theorem aside_finishLoad (c : Conversation) (result : Except BookError Book) :
    c.Aside (c.finishLoad result) := by
  constructor <;> rfl
theorem aside_takeEvents (c : Conversation) : c.Aside c.takeEvents.1 := by
  constructor <;> rfl

theorem In.aside (h : c.In m) (a : c.Aside c') : c'.In m where
  stage := ⟨a.control ▸ h.stage.control, a.scene ▸ h.stage.scene,
    fun sc hsc => by rw [← h.stage.known sc hsc]; exact congrArg (·.scene? sc.name) a.script,
    h.stage.exit⟩
  started := a.started ▸ h.started

theorem Orderly.aside (o : c.Orderly) (a : c.Aside c') : c'.Orderly where
  sound := a.script ▸ o.sound
  mode := o.mode.imp fun _ h => h.aside a

/-- No move of a conversation brings it out of order. -/
theorem kept_orderly : Kept fun _ c => c.Orderly where
  start {_ c} o := by
    obtain ⟨m, hm⟩ := o.mode
    by_cases fresh : m = .unstarted
    · subst fresh
      obtain ⟨sc, -, eq, waits⟩ := start_of_unstarted o.sound hm
      refine ⟨?_, _, waits⟩
      rw [eq]
      exact o.sound
    · rw [start_of_ne hm fresh]
      exact o
  task {_ c _ c'} o hs := by
    obtain ⟨m, hm⟩ := o.mode
    obtain ⟨m', turn, hm'⟩ := turn_of_step? o.sound hm hs
    have script : c'.script = c.script := turn.sameCase.script
    exact ⟨script ▸ o.sound, m', hm'⟩
  settle o _ := o.aside (aside_settle _ _)
  chosen {_ c value} o h := by
    obtain ⟨sc, number, o', sc', -, -, -, eq, waits⟩ := choose_of_ok o h
    have script : (c.choose value).1.script = c.script := by
      rw [eq]
      exact congrArg Walk.script (Stage.walk_accept _)
    exact ⟨script ▸ o.sound, _, waits⟩
  refused o h := by
    rw [choose_of_error o h]
    exact o
  annotate claim category o := o.aside (aside_annotate _ claim category)
  finishLoad result o := o.aside (aside_finishLoad _ result)
  takeEvents o := o.aside (aside_takeEvents _)

theorem orderly_of_build {s : Setup} (h : s.build = .ok c) : c.Orderly := by
  obtain ⟨script, pacing, sound, rfl⟩ := Setup.build_eq_ok h
  exact ⟨sound, .unstarted, ⟨rfl, rfl, nofun, trivial⟩, by simp⟩

theorem Orderly.of_step? (o : c.Orderly) {target : Millis} (hs : c.step? target = some c') :
    c'.Orderly :=
  kept_orderly.task (t := {}) o hs

theorem Orderly.of_run (o : c.Orderly) (target : Millis) (n : Nat) : (c.run target n).Orderly :=
  kept_orderly.toSteady.run (t := {}) o target n

/-- What no task breaks while a conversation is in order, no number of tasks breaks. -/
theorem Orderly.run_of_step? {P : Conversation → Prop} {target : Millis} (o : c.Orderly)
    (keep : ∀ {d e}, d.Orderly → P d → d.step? target = some e → P e) (h : P c) (n : Nat) :
    P (c.run target n) := by
  have kept : (c.run target n).Orderly ∧ P (c.run target n) := by
    apply Conversation.run_of_step? (P := fun d => d.Orderly ∧ P d) _ ⟨o, h⟩
    rintro d e ⟨o, h⟩ hs
    exact ⟨o.of_step? hs, keep o h hs⟩
  exact kept.2

/-- A conversation that was set up stays in order. -/
theorem orderly_of_reaches {s : Setup} {c₀ : Conversation} (hb : s.build = .ok c₀)
    (h : c₀.Reaches c) : c.Orderly := by
  obtain ⟨limit, calls, log, h⟩ := h
  exact kept_orderly.play (t := {}) (orderly_of_build hb) h

/-- Whatever its host does, a conversation that was set up is in exactly one mode. Starting it never
fails, and until its end it waits to be started, has a task planned, or takes an answer. -/
theorem existsUnique_mode_of_reaches {s : Setup} {c₀ : Conversation} (hb : s.build = .ok c₀)
    (h : c₀.Reaches c) :
    (∃! m, c.In m) ∧ c.start.2 = .ok () ∧
      (c.started = false ∨ c.nextDue?.isSome ∨ (∃ value, (c.choose value).2 = .ok ()) ∨
        c.isClosed) := by
  have o := orderly_of_reaches hb h
  obtain ⟨m, hm⟩ := o.mode
  refine ⟨⟨m, hm, fun m' hm' => hm'.unique hm⟩, ?_, ?_⟩
  · by_cases fresh : m = .unstarted
    · subst fresh
      obtain ⟨sc, -, eq, -⟩ := start_of_unstarted o.sound hm
      rw [eq]
    · rw [start_of_ne hm fresh]
  · have pending : c.stage.agenda.pending = m.control.pending :=
      congrArg Control.pending hm.stage.control
    cases m with
    | unstarted => exact .inl (by simpa using hm.started)
    | leadIn | typing | pause =>
      exact .inr (.inl (by simp [nextDue?, Agenda.nextDue?, pending, Mode.control]))
    | asking sc number =>
      obtain ⟨kind, options, exit, some_option⟩ := hm.stage.exit
      obtain ⟨o', rest, rfl⟩ := List.exists_cons_of_ne_nil some_option
      have first : sc.exit.options.find? (·.value = o'.value) = some o' := by
        simp [exit, Exit.options]
      obtain ⟨sc', -, eq, -⟩ := choose_of_find?_eq_some o.sound hm first
      exact .inr (.inr (.inl ⟨o'.value, by rw [eq]⟩))
    | closed => exact .inr (.inr (.inr (congrArg Control.closed hm.stage.control)))

end Conversation

/-! A short case: one scene asks for the verdict, and the next repeats it and ends. -/

namespace Gated

def ask : Scene where
  name := "ask"
  leadIn := 0
  narration := .lines [⟨[.literal "Well?"]⟩]
  exit := .gate .verdict
    [⟨⟨"Guilty", "guilty"⟩, "after"⟩, ⟨⟨"Not guilty", "not-guilty"⟩, "after"⟩]

def after : Scene where
  name := "after"
  leadIn := 100
  narration := .lines
    [⟨[.slot .verdict, .literal ": ", .slot .correct, .literal "/", .slot .total]⟩]
  exit := .close

def script : Script where
  title := "Gate"
  suspect := "Flora Jasmine"
  start := "ask"
  scenes := [ask, after]
  nodup_names := by decide

theorem sound_script : script.Sound where
  start := by decide
  exits := by
    intro sc hsc
    simp only [script, List.mem_cons, List.not_mem_nil, or_false] at hsc
    rcases hsc with rfl | rfl
    · exact ⟨by decide, by rintro kind options ⟨⟩; simp, by decide, by rintro options ⟨⟩; decide⟩
    · exact ⟨by decide, nofun, by decide, nofun⟩

def setup : Setup := { script := .given script, pacing := .given .instant }

def opening : Conversation := { stage := .opening script .instant .reference none }

theorem build_setup : setup.build = .ok opening := Setup.build_of_given sound_script rfl rfl

/-- The case at any pace and with any answers. -/
def setupWith (pacing : Pacing) (store : AnswerStore) : Setup :=
  { script := .given script, pacing := .given pacing, store := .given store }

def openingWith (pacing : Pacing) (store : AnswerStore) : Conversation :=
  { stage := .opening script pacing store none }

theorem build_setupWith (pacing : Pacing) (store : AnswerStore) :
    (setupWith pacing store).build = .ok (openingWith pacing store) :=
  Setup.build_of_given sound_script rfl rfl

/-- While the case asks for the verdict, it is in one mode. -/
theorem existsUnique_mode_of_asking :
    ∃ c log, setup.build = .ok opening ∧
      opening.play? 10 [.start, .runUntilIdle] = some (c, log) ∧ c.decision?.isSome ∧
      (∃! m, c.In m) ∧ c.start.2 = .ok () ∧
      (c.started = false ∨ c.nextDue?.isSome ∨ (∃ value, (c.choose value).2 = .ok ()) ∨
        c.isClosed) :=
  ⟨_, _, build_setup, rfl, rfl,
    Conversation.existsUnique_mode_of_reaches build_setup ⟨10, [.start, .runUntilIdle], _, rfl⟩⟩

end Gated

end Inquest
