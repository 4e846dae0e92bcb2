import Inquest.Proofs.Dialogue.Mode
/-!
# Turns of a stage

What happens when the one task of a stage comes due. The narrator begins a line, reveals one, goes
on to the next, or has finished with the scene, which is then left through its exit. Each turn is
given with the stage that comes out of it, so that no later proof has to run a task again.
-/

namespace Inquest.Stage

/-- The stage when its only task, due at `due`, has come off the agenda. -/
def wake (s : Stage) (due : Millis) : Stage :=
  { s with agenda := .idle (max s.agenda.now due) }

@[simp] theorem walk_wake (s : Stage) (due : Millis) : (s.wake due).walk = s.walk := rfl
@[simp] theorem hearing_wake (s : Stage) (due : Millis) : (s.wake due).hearing = s.hearing := rfl
@[simp] theorem pending_wake (s : Stage) (due : Millis) : (s.wake due).agenda.pending = [] := rfl
@[simp] theorem now_wake (s : Stage) (due : Millis) :
    (s.wake due).agenda.now = max s.agenda.now due := rfl
@[simp] theorem pending_schedule_wake (s : Stage) (due delay : Millis) (task : Task) :
    ((s.wake due).agenda.schedule delay task).pending = [⟨max s.agenda.now due + delay, task⟩] := rfl
@[simp] theorem events_wake (s : Stage) (due : Millis) : (s.wake due).events = s.events := rfl
@[simp] theorem reported_wake (s : Stage) (due : Millis) :
    (s.wake due).reported = s.reported := rfl

def typingDelay (s : Stage) (line : String) : Millis :=
  s.hearing.narrator.pacing.typingDelay line

def nextLine (s : Stage) (text : String) : Line :=
  ⟨s.hearing.narrator.nextLine, .narrator, text, s.agenda.now⟩

/-- The stage on which a scene has just been entered. -/
def entering (s : Stage) (sc : Scene) : Stage :=
  { s with hearing.scene := some sc.name }.emit
    ⟨[.sceneEntered sc.name], [(sc.leadIn, .narrate sc.name)]⟩

/-- The narrator has finished with a scene: it had nothing to say, or the pause after its last line
is over. The last argument is the stage from which the scene is left. -/
inductive Hushed (s : Stage) : Mode → Scene → Stage → Prop where
  | silent {sc : Scene} {due : Millis} (lines : Narrator.spoken (s.linesOf sc) = []) :
    Hushed s (.leadIn sc due) sc (s.wake due)
  | drained {sc : Scene} {due : Millis} :
    Hushed s (.pause sc due []) sc
      ({ s.wake due with hearing.narrator.busy := false, walk.awaiting := none }.emit
        ⟨[.queueDrained], []⟩)

/-- A scene is left through its exit. -/
inductive Leaves (s : Stage) (sc : Scene) : Mode → Stage → Prop where
  | proceed {next : String} {sc' : Scene} (exit : sc.exit = .proceed next)
      (found : s.walk.script.scene? next = some sc') :
    Leaves s sc (.leadIn sc' (s.agenda.now + sc'.leadIn)) (s.entering sc')
  | ask {kind : GateKind} {options : List GateOption} (exit : sc.exit = .gate kind options) :
    Leaves s sc (.asking sc s.hearing.nextDecision)
      ({ s with
        hearing.shown := some (Mode.decision sc s.hearing.nextDecision)
        hearing.nextDecision := s.hearing.nextDecision + 1 }.emit
          ⟨[.decisionPresented (Mode.decision sc s.hearing.nextDecision)], []⟩)
  | close (exit : sc.exit = .close) :
    Leaves s sc (.closed sc) ({ s with walk.closed := true }.emit ⟨[.finished], []⟩)

/-- The task of a stage comes due: the modes before and after it, and the stage that comes out. -/
inductive Turn (s : Stage) : Mode → Mode → Stage → Prop where
  | begin {sc : Scene} {due : Millis} {line : String} {rest : List String}
      (lines : Narrator.spoken (s.linesOf sc) = line :: rest) :
    Turn s (.leadIn sc due)
      (.typing sc (max s.agenda.now due + s.typingDelay line) line rest)
      ({ s.wake due with
        walk.awaiting := some sc.name
        hearing.narrator.queue := line :: rest
        hearing.narrator.busy := true
        hearing.narrator.typing := true }.emit
          ⟨[.typingStarted], [(s.typingDelay line, .reveal)]⟩)
  | reveal {sc : Scene} {due : Millis} {line : String} {rest : List String} :
    Turn s (.typing sc due line rest)
      (.pause sc (max s.agenda.now due + s.hearing.narrator.pacing.linePause) rest)
      ({ s.wake due with
        hearing.narrator := { s.hearing.narrator with queue := rest, typing := false }.push
          ((s.wake due).nextLine line) }.emit
          ⟨[.typingStopped, .lineRevealed ((s.wake due).nextLine line)],
            [(s.hearing.narrator.pacing.linePause, .resume)]⟩)
  | goOn {sc : Scene} {due : Millis} {line : String} {rest : List String} :
    Turn s (.pause sc due (line :: rest))
      (.typing sc (max s.agenda.now due + s.typingDelay line) line rest)
      ({ s.wake due with hearing.narrator.typing := true }.emit
          ⟨[.typingStarted], [(s.typingDelay line, .reveal)]⟩)
  | leave {m m' : Mode} {sc : Scene} {t u : Stage} (hushed : s.Hushed m sc t)
      (leaves : t.Leaves sc m' u) : Turn s m m' u

variable {s : Stage} {sc : Scene}

theorem toList_events_entering :
    (s.entering sc).events.toList = s.events.toList ++ [.sceneEntered sc.name] := by
  simp [entering]

theorem enter_of_scene? {name : String} (found : s.walk.script.scene? name = some sc) :
    s.enter name = (s.entering sc, .ok ()) := by
  have hn : sc.name = name := (Script.mem_of_scene? found).2
  simp only [enter, found, Hearing.setScene, entering, hn]

/-- A stage with nothing under way waits for the lead-in of the scene that it enters. -/
theorem in_entering (hc : s.control = {}) (known : s.walk.script.scene? sc.name = some sc) :
    (s.entering sc).In (.leadIn sc (s.agenda.now + sc.leadIn)) := by
  simp only [control, Control.mk.injEq] at hc
  constructor
  · simp [control, Mode.control, entering, Agenda.pending_schedule_of_nil, hc]
  · rfl
  · rintro _ ⟨⟩
    exact known
  · trivial

/-- The scene that waits for a narrator with nothing left to say is left through its exit. -/
theorem leaves_leave (sound : s.walk.script.Sound) (known : s.walk.script.scene? sc.name = some sc)
    (hc : s.control = { awaiting := some sc.name }) :
    ∃ m, { s with walk.awaiting := none }.Leaves sc m s.leave := by
  simp only [control, Control.mk.injEq] at hc
  obtain ⟨-, hqueue, hbusy, -, hawaiting, hshown, hheld, -⟩ := hc
  cases he : sc.exit with
  | proceed next =>
    have target : next ∈ sc.exit.targets := by simp [he, Exit.targets]
    obtain ⟨sc', found⟩ := sound.scene?_of_mem_targets known target
    let t : Stage := { s with walk.awaiting := none }
    have entered : t.enter next = (t.entering sc', .ok ()) := enter_of_scene? found
    have eq : s.leave = t.entering sc' := by
      simp only [leave, hawaiting, known, he]
      exact congrArg Prod.fst entered
    rw [eq]
    exact ⟨_, .proceed he found⟩
  | gate kind options =>
    -- Nothing is held back in any mode, so the decision is shown at once.
    have idle : s.hearing.narrator.isIdle := by simp [Narrator.isIdle, hqueue, hbusy]
    have eq : s.leave = { s with
        walk.awaiting := none
        hearing.shown := some (Mode.decision sc s.hearing.nextDecision)
        hearing.nextDecision := s.hearing.nextDecision + 1 }.emit
          ⟨[.decisionPresented (Mode.decision sc s.hearing.nextDecision)], []⟩ := by
      simp [leave, hawaiting, known, he, offer, Hearing.offer, hheld, idle, hshown, Mode.decision,
        Exit.options]
    rw [eq]
    exact ⟨_, .ask he⟩
  | close =>
    have eq : s.leave = { s with walk.awaiting := none, walk.closed := true }.emit
        ⟨[.finished], []⟩ := by
      simp only [leave, hawaiting, known, he]
    rw [eq]
    exact ⟨_, .close he⟩

theorem enqueue_of_spoken_eq_nil {lines : List String} (h : Narrator.spoken lines = []) :
    s.enqueue lines = (s, 0) := by
  simp [enqueue, onNarrator, Narrator.enqueue, h, emit, Effects.none]

theorem enqueue_of_spoken_eq_cons {lines rest : List String} {line : String}
    (hqueue : s.hearing.narrator.queue = []) (hbusy : s.hearing.narrator.busy = false)
    (h : Narrator.spoken lines = line :: rest) :
    s.enqueue lines = ({ s with
      hearing.narrator.queue := line :: rest
      hearing.narrator.busy := true
      hearing.narrator.typing := true }.emit
        ⟨[.typingStarted], [(s.typingDelay line, .reveal)]⟩, rest.length + 1) := by
  simp [enqueue, onNarrator, Narrator.enqueue, Narrator.speak, h, hqueue, hbusy, typingDelay]

/-- The lead-in of a scene is over. -/
theorem turn_narrate {due : Millis} (sound : s.walk.script.Sound) (h : s.In (.leadIn sc due)) :
    ∃ m, s.Turn (.leadIn sc due) m ((s.wake due).narrate sc.name) := by
  have known := h.known sc rfl
  have hc := h.control
  simp only [control, Mode.control, Control.mk.injEq] at hc
  obtain ⟨-, hqueue, hbusy, htyping, hawaiting, hshown, hheld, hclosed⟩ := hc
  let t : Stage := { s.wake due with walk.awaiting := some sc.name }
  have idle : t.hearing.narrator.isIdle := by simp [t, Narrator.isIdle, hqueue, hbusy]
  have eq : (s.wake due).narrate sc.name =
      if (t.enqueue (s.linesOf sc)).1.hearing.narrator.isIdle then (t.enqueue (s.linesOf sc)).1.leave
      else (t.enqueue (s.linesOf sc)).1 := by
    simp only [narrate, walk_wake, known]
    rfl
  rw [eq]
  cases hl : Narrator.spoken (s.linesOf sc) with
  | nil =>
    -- A scene without lines is left within the same task.
    have quiet : { t with walk.awaiting := none } = s.wake due := by simp [t, wake, ← hawaiting]
    rw [enqueue_of_spoken_eq_nil hl, if_pos idle]
    obtain ⟨m, hm⟩ := leaves_leave (s := t) sound known
      (by simp [control, t, hqueue, hbusy, htyping, hshown, hheld, hclosed])
    exact ⟨m, .leave (.silent hl) (quiet ▸ hm)⟩
  | cons line rest =>
    rw [enqueue_of_spoken_eq_cons (s := t) hqueue hbusy hl, if_neg (by simp [Narrator.isIdle])]
    exact ⟨_, .begin hl⟩

/-- The typing time of a line is over. -/
theorem turn_reveal {due : Millis} {line : String} {rest : List String}
    (h : s.In (.typing sc due line rest)) :
    ∃ m, s.Turn (.typing sc due line rest) m (s.wake due).reveal := by
  have hc := h.control
  simp only [control, Mode.control, Control.mk.injEq] at hc
  obtain ⟨-, hqueue, -, htyping, -, -, -, -⟩ := hc
  have eq : (s.wake due).reveal = { s.wake due with
      hearing.narrator := { s.hearing.narrator with queue := rest, typing := false }.push
        ((s.wake due).nextLine line) }.emit
        ⟨[.typingStopped, .lineRevealed ((s.wake due).nextLine line)],
          [(s.hearing.narrator.pacing.linePause, .resume)]⟩ := by
    simp [Stage.reveal, onNarrator, Narrator.reveal_of_cons hqueue, htyping, nextLine]
  rw [eq]
  exact ⟨_, .reveal⟩

/-- The pause after a line is over. -/
theorem turn_resume {due : Millis} {rest : List String} (sound : s.walk.script.Sound)
    (h : s.In (.pause sc due rest)) :
    ∃ m, s.Turn (.pause sc due rest) m ((s.wake due).run .resume) := by
  have known := h.known sc rfl
  have hc := h.control
  simp only [control, Mode.control, Control.mk.injEq] at hc
  obtain ⟨-, hqueue, hbusy, htyping, hawaiting, hshown, hheld, hclosed⟩ := hc
  cases rest with
  | nil =>
    let t : Stage := { s.wake due with hearing.narrator.busy := false }.emit ⟨[.queueDrained], []⟩
    have eq : (s.wake due).run .resume = t.leave := by
      simp [run, resume, onNarrator, Narrator.resume_of_nil hqueue, promote, Hearing.promote,
        Narrator.isIdle, hshown, hheld, t, emit, Effects.none]
    rw [eq]
    obtain ⟨m, hm⟩ := leaves_leave (s := t) sound known
      (by simp [control, t, hqueue, htyping, hawaiting, hshown, hheld, hclosed])
    exact ⟨m, .leave .drained hm⟩
  | cons line rest =>
    have eq : (s.wake due).run .resume = { s.wake due with hearing.narrator.typing := true }.emit
        ⟨[.typingStarted], [(s.typingDelay line, .reveal)]⟩ := by
      simp [run, resume, onNarrator, Narrator.resume_of_cons hqueue, hqueue, hbusy, typingDelay]
    rw [eq]
    exact ⟨_, .goOn⟩

/-- The task that comes due in a mode makes a turn. -/
theorem turn_of_popDue? {m : Mode} {target : Millis} {task : Task} {agenda : Agenda}
    (sound : s.walk.script.Sound) (h : s.In m)
    (hp : s.agenda.popDue? target = some (task, agenda)) :
    ∃ m', s.Turn m m' ({ s with agenda }.run task) := by
  have pending : s.agenda.pending = m.control.pending := congrArg Control.pending h.control
  cases m with
  | unstarted | asking | closed =>
    rw [Agenda.popDue?_of_nil pending] at hp
    cases hp
  | leadIn sc due =>
    obtain ⟨-, rfl, rfl⟩ := (Agenda.popDue?_eq_some_of_singleton pending).1 hp
    exact turn_narrate sound h
  | typing sc due line rest =>
    obtain ⟨-, rfl, rfl⟩ := (Agenda.popDue?_eq_some_of_singleton pending).1 hp
    exact turn_reveal h
  | pause sc due rest =>
    obtain ⟨-, rfl, rfl⟩ := (Agenda.popDue?_eq_some_of_singleton pending).1 hp
    exact turn_resume sound h

/-- From a stage with nothing under way a scene leads to the mode of its exit. -/
theorem Leaves.in {m : Mode} {t : Stage} (h : s.Leaves sc m t) (sound : s.walk.script.Sound)
    (hc : s.control = {}) (scene : s.hearing.scene = some sc.name)
    (known : s.walk.script.scene? sc.name = some sc) : t.In m := by
  cases h with
  | @proceed next sc' exit found =>
    have name : sc'.name = next := (Script.mem_of_scene? found).2
    exact in_entering hc (name ▸ found)
  | @ask kind options exit =>
    have some_option : options ≠ [] := (sound.exit known).options kind options exit
    simp only [control, Control.mk.injEq] at hc
    constructor
    · simp [control, Mode.control, hc]
    · exact scene
    · rintro _ ⟨⟩
      exact known
    · exact ⟨kind, options, exit, some_option⟩
  | close exit =>
    simp only [control, Control.mk.injEq] at hc
    constructor
    · simp [control, Mode.control, hc]
    · exact scene
    · rintro _ ⟨⟩
      exact known
    · exact exit

/-- When the narrator has finished with a scene, nothing is under way. -/
theorem Hushed.control_eq {m : Mode} {t : Stage} (h : s.Hushed m sc t) (hm : s.In m) :
    t.control = {} := by
  have hc := hm.control
  cases h <;>
    simp only [control, Mode.control, Control.mk.injEq] at hc <;>
    simp [control, hc]

theorem Hushed.script {m : Mode} {t : Stage} (h : s.Hushed m sc t) :
    t.walk.script = s.walk.script := by
  cases h <;> rfl

theorem Hushed.scene? {m : Mode} {t : Stage} (h : s.Hushed m sc t) : m.scene? = some sc := by
  cases h <;> rfl

/-- A turn leads from mode to mode. -/
theorem Turn.in {m m' : Mode} {t : Stage} (h : s.Turn m m' t) (sound : s.walk.script.Sound)
    (hm : s.In m) : t.In m' := by
  cases h with
  | leave hushed leaves =>
    have quiet := hushed.control_eq hm
    cases hushed <;> exact leaves.in sound quiet hm.scene (hm.known _ rfl)
  | begin | reveal | goOn =>
    have hc := hm.control
    simp only [control, Mode.control, Control.mk.injEq] at hc
    refine ⟨?_, hm.scene, hm.known, trivial⟩
    simp [control, Mode.control, hc]

/-- Turns are made only after the start. -/
theorem Turn.ne_unstarted {m m' : Mode} {t : Stage} (h : s.Turn m m' t) :
    m ≠ .unstarted ∧ m' ≠ .unstarted := by
  cases h with
  | leave hushed leaves => cases hushed <;> cases leaves <;> simp
  | begin | reveal | goOn => simp

/-- A scene is left in one way. -/
theorem Leaves.unique {m m' : Mode} {t u : Stage} (h : s.Leaves sc m t) (h' : s.Leaves sc m' u) :
    t = u := by
  cases h <;> cases h' <;> simp_all

/-- A stage makes at most one turn. -/
theorem Turn.unique {m m₁ m₂ : Mode} {t u : Stage} (h : s.Turn m m₁ t) (h' : s.Turn m m₂ u) :
    t = u := by
  cases h with
  | begin lines =>
    cases h' with
    | begin lines' =>
      rw [lines] at lines'
      cases lines'
      rfl
    | leave hushed _ =>
      cases hushed with
      | silent none => rw [lines] at none; cases none
  | reveal =>
    cases h' with
    | reveal => rfl
    | leave hushed _ => cases hushed
  | goOn =>
    cases h' with
    | goOn => rfl
    | leave hushed _ => cases hushed
  | leave hushed leaves =>
    cases h' with
    | begin lines =>
      cases hushed with
      | silent none => rw [lines] at none; cases none
    | reveal | goOn => cases hushed
    | leave hushed' leaves' =>
      cases hushed <;> cases hushed' <;> exact leaves.unique leaves'

structure SameCase (s t : Stage) : Prop where
  script : t.walk.script = s.walk.script
  store : t.walk.store = s.walk.store
  suspect : t.walk.suspect = s.walk.suspect
  pacing : t.hearing.narrator.pacing = s.hearing.narrator.pacing
  marks : t.hearing.marks = s.hearing.marks
  ruling : t.hearing.ruling = s.hearing.ruling
  reported : t.reported = s.reported

theorem Turn.sameCase {m m' : Mode} {t : Stage} (h : s.Turn m m' t) : s.SameCase t := by
  cases h with
  | leave hushed leaves => cases hushed <;> cases leaves <;> constructor <;> rfl
  | begin | reveal | goOn => constructor <;> rfl

/-- Lines are filled from the ruling and the suspect. -/
theorem linesOf_of_ruling {t : Stage} (ruling : t.hearing.ruling = s.hearing.ruling)
    (suspect : t.walk.suspect = s.walk.suspect) (sc : Scene) : t.linesOf sc = s.linesOf sc := by
  have scope : t.scope = s.scope := by
    simp only [Stage.scope, Hearing.accuracy?, Hearing.verdict?, ruling, suspect]
  rw [linesOf, linesOf, scope]

end Inquest.Stage
