import Inquest.Proofs.Conversation.Progress
import Inquest.Proofs.Dialogue.Record
/-!
# Travelling through a script

A conversation enters no scene that cannot be reached, and for each that can, some host makes it
enter the scene: it lets each scene on the way come to its end, and where a gate asks it picks the
option that leads on. So the warnings about a script are right about every conversation that plays
it.
-/

namespace Inquest.Conversation

variable {script : Script} {c c' d : Conversation} {m : Mode} {sc sc' : Scene} {t : Transcript}

/-! Where conversations do not come. -/

/-- A conversation of which all scenes that were entered can be reached. -/
structure Visited (script : Script) (t : Transcript) (c : Conversation) :
    Prop extends Underway script c where
  entered : ∀ name, .sceneEntered name ∈ t.told c → ∃ sc, script.Reaches sc ∧ sc.name = name

/-- A move that announces the scene that it leads to. -/
theorem Visited.adds {t' : Transcript} {es : List Event} {said : Option Line}
    (h : c.Visited script t) (under : c'.Underway script) (a : c.stage.Adds c'.stage es said)
    (hm : c'.In m) (announces : m.Announces es) (taken : t'.taken = t.taken) :
    c'.Visited script t' := by
  refine ⟨under, ?_⟩
  intro name mem
  rw [Transcript.told_of_events a.events taken] at mem
  rcases List.mem_append.1 mem with old | new
  · exact h.entered name old
  · obtain ⟨sc, here, rfl⟩ := Option.map_eq_some_iff.1 (announces name new)
    exact ⟨sc, under.reaches m hm sc here, rfl⟩

/-- No move of a conversation enters a scene that cannot be reached. -/
theorem kept_visited : Kept fun t c => c.Visited script t where
  start {t c} h := by
    obtain ⟨m, hm⟩ := h.mode
    by_cases fresh : m = .unstarted
    · subst fresh
      obtain ⟨sc, -, eq, waits⟩ := start_of_unstarted h.sound hm
      have under : c.start.1.Underway script := kept_underway.start (t := t) h.toUnderway
      rw [eq] at under waits ⊢
      have announces : (Mode.leadIn sc (c.now + sc.leadIn)).Announces [.sceneEntered sc.name] := by
        simp [Mode.Announces, Mode.scene?]
      exact h.adds under (c.stage.adds_entering sc) waits announces rfl
    · rw [start_of_ne hm fresh]
      exact h
  task {t c _ c'} h hs := by
    obtain ⟨m, hm⟩ := h.mode
    obtain ⟨m', turn, hm'⟩ := turn_of_step? h.sound hm hs
    obtain ⟨es, said, adds, announces⟩ := turn.adds
    exact h.adds (kept_underway.task (t := t) h.toUnderway hs) adds hm' announces rfl
  settle {t c target} h quiet := ⟨kept_underway.settle (t := t) h.toUnderway quiet, h.entered⟩
  chosen {t c value} h ok := by
    obtain ⟨sc, number, o, sc', -, -, -, eq, waits⟩ := choose_of_ok h.toOrderly ok
    obtain ⟨es, adds, announces⟩ := c.stage.adds_accept (sc.reply number o) sc'
    have under : (c.choose value).1.Underway script := kept_underway.chosen (t := t) h.toUnderway ok
    rw [eq] at under waits ⊢
    exact h.adds under adds waits (announces _) rfl
  refused h hv := by
    rw [choose_of_error h.toOrderly hv]
    exact h
  annotate {t c} claim category h :=
    ⟨kept_underway.annotate (t := t) claim category h.toUnderway, h.entered⟩
  finishLoad {t c} result h := ⟨kept_underway.finishLoad (t := t) result h.toUnderway, h.entered⟩
  takeEvents {t c} h := by
    refine ⟨kept_underway.takeEvents (t := t) h.toUnderway, ?_⟩
    rw [Transcript.told_takeEvents]
    exact h.entered

theorem visited_of_build {s : Setup} (h : s.build = .ok c) : c.Visited c.script {} := by
  refine ⟨underway_of_build h, ?_⟩
  obtain ⟨script, pacing, -, rfl⟩ := Setup.build_eq_ok h
  simp [Transcript.told, Stage.opening]

/-! Where conversations can come. -/

/-- Every scene is left in the end. -/
theorem Underway.exists_leaves (h : c.Underway script) (hm : c.In m) (here : m.scene? = some sc)
    (left : 0 < m.tasksLeft) :
    ∃ (n : Nat) (m' : Mode) (u : Stage), u.walk.script = script ∧
      u.Leaves sc m' (c.run .last n).stage ∧ (c.run .last n).In m' := by
  induction hn : m.tasksLeft using Nat.strong_induction_on generalizing c m with
  | _ left' ih =>
    obtain ⟨d, hd⟩ := exists_step?_last hm left
    obtain ⟨m₁, turn, hm₁⟩ := turn_of_step? h.sound hm hd
    have ran : ∀ n, c.run .last (n + 1) = d.run .last n := by
      intro n
      rw [run, hd]
    rcases turn.stays_or_leaves with ⟨same, left₁, less⟩ | ⟨sc₁, u, hushed, leaves⟩
    · have under : d.Underway script := kept_underway.task (t := {}) h hd
      rw [hn] at less
      obtain ⟨n, rest⟩ := ih _ less under hm₁ (same.trans here) left₁ rfl
      exact ⟨n + 1, by rw [ran]; exact rest⟩
    · obtain rfl : sc = sc₁ := Option.some.inj (here.symm.trans hushed.scene?)
      refine ⟨1, m₁, u, ?_, ?_⟩
      · rw [hushed.script]
        exact h.plays
      · rw [ran]
        exact ⟨leaves, hm₁⟩

/-- Some run passes through the conversation: it leads to where tasks alone lead on from there. -/
def Passes (c d : Conversation) : Prop := ∃ n, c.Reaches (d.run .last n)

theorem Reaches.passes (h : c.Reaches d) : c.Passes d := ⟨0, h⟩

/-- A run that passes through a conversation passes through what its tasks lead to. -/
theorem Passes.run (h : c.Passes d) (k : Nat) : c.Passes (d.run .last k) := by
  induction k with
  | zero => exact h
  | succ k ih =>
    obtain ⟨n, reached⟩ := ih
    rw [run_add]
    cases n with
    | zero =>
      -- No call runs a single task, but to wait for idleness is to run that task among others.
      have waits : (d.run .last k).perform? 0 .runUntilIdle = some (_, _) := rfl
      have idle : c.Reaches ((d.run .last k).run .last (1 + (maxSteps - 1))) :=
        reached.perform waits
      rw [run_add] at idle
      exact ⟨_, idle⟩
    | succ n =>
      rw [Nat.add_comm, run_add] at reached
      exact ⟨n, reached⟩

/-- A run reaches what it passes through when nothing is planned there. -/
theorem Passes.reaches (h : c.Passes d) (quiet : d.step? .last = none) : c.Reaches d := by
  obtain ⟨n, h⟩ := h
  rw [run_of_step?_eq_none quiet] at h
  exact h

/-- A conversation that has just entered the scene. -/
structure Entering (script : Script) (sc : Scene) (c : Conversation) :
    Prop extends Underway script c where
  waits : ∃ due, c.In (.leadIn sc due)
  told : .sceneEntered sc.name ∈ c.stage.events.toList

theorem Underway.entering {s : Stage} {due : Millis} (h : c.Underway script)
    (hm : c.In (.leadIn sc due)) (entered : c.stage = s.entering sc) : c.Entering script sc := by
  refine ⟨h, ⟨due, hm⟩, ?_⟩
  rw [entered, Stage.toList_events_entering]
  exact List.mem_append_right _ (List.mem_singleton_self _)

/-- A run that passes through a scene comes to where the scene is left. -/
theorem Entering.exists_leaves (h : d.Entering script sc) (passes : c.Passes d) :
    ∃ (e : Conversation) (m : Mode) (u t : Stage), c.Passes e ∧ e.Underway script ∧ e.In m ∧
      e.stage = t ∧ u.walk.script = script ∧ u.Leaves sc m t := by
  obtain ⟨due, waits⟩ := h.waits
  obtain ⟨n, m, u, plays, leaves, hm⟩ :=
    h.toUnderway.exists_leaves waits rfl (Mode.tasksLeft_leadIn_pos sc due)
  have under : (d.run .last n).Underway script :=
    kept_underway.toSteady.run (t := {}) h.toUnderway .last n
  exact ⟨d.run .last n, m, u, _, passes.run n, under, hm, rfl, plays, leaves⟩

/-- At a gate the player can pick an option for each scene to which it leads. -/
theorem Underway.exists_choice {number : Nat} (h : c.Underway script)
    (hm : c.In (.asking sc number)) (leads : script.Leads sc sc') :
    ∃ value, (c.choose value).1.Entering script sc' := by
  obtain ⟨kind, options, exit, -⟩ := hm.stage.exit
  obtain ⟨next, target, found⟩ := leads
  rw [exit] at target
  obtain ⟨o, mem, rfl⟩ := List.mem_map.1 target
  have known : c.script.scene? sc.name = some sc := hm.stage.known sc rfl
  have picked : sc.exit.options.find? (·.value = o.value) = some o := by
    apply (h.sound.exit known).find?_value
    rw [exit]
    exact mem
  obtain ⟨sc₁, found₁, eq, waits⟩ := choose_of_find?_eq_some h.sound hm picked
  have found₁ : script.scene? o.next = some sc₁ := h.plays ▸ found₁
  rw [found] at found₁
  cases found₁
  have ok : (c.choose o.value).2 = .ok () := by rw [eq]
  have under : (c.choose o.value).1.Underway script := kept_underway.chosen (t := {}) h ok
  exact ⟨o.value, under.entering waits (by rw [eq])⟩

/-- From a scene a run can be led on to each scene to which the exit leads. -/
theorem Entering.exists_next (h : d.Entering script sc) (passes : c.Passes d)
    (leads : script.Leads sc sc') : ∃ e, c.Passes e ∧ e.Entering script sc' := by
  obtain ⟨e, m, u, t, passes, under, hm, stage, plays, leaves⟩ := h.exists_leaves passes
  cases leaves with
  | @proceed next sc₁ exit found =>
    obtain ⟨name, target, found₁⟩ := leads
    rw [exit, Exit.targets, List.mem_singleton] at target
    rw [plays, ← target, found₁] at found
    cases found
    exact ⟨e, passes, under.entering hm stage⟩
  | ask =>
    have reached : c.Reaches e := passes.reaches (step?_eq_none_of_tasksLeft hm rfl)
    obtain ⟨value, entering⟩ := under.exists_choice hm leads
    have chosen : e.perform? 0 (.choose value) = some ((e.choose value).1, _) := rfl
    exact ⟨_, (reached.perform chosen).passes, entering⟩
  | close exit =>
    obtain ⟨name, target, -⟩ := leads
    rw [exit] at target
    cases target

variable {c₀ : Conversation}

/-- Some run comes to each scene that can be reached. -/
theorem exists_entering {s : Setup} (hb : s.build = .ok c₀) (h : c₀.script.Reaches sc) :
    ∃ d, c₀.Passes d ∧ d.Entering c₀.script sc := by
  obtain ⟨first, found, path⟩ := h
  induction path with
  | refl =>
    have under : c₀.Underway c₀.script := underway_of_build hb
    obtain ⟨sc, found₁, eq, waits⟩ := start_of_unstarted under.sound (unstarted_of_build hb)
    rw [found] at found₁
    cases found₁
    have started : c₀.perform? 0 .start = some (c₀.start.1, _) := rfl
    have under : c₀.start.1.Underway c₀.script := kept_underway.start (t := {}) under
    exact ⟨_, (Reaches.refl.perform started).passes, under.entering waits (by rw [eq])⟩
  | tail _ leads ih =>
    obtain ⟨d, passes, entering⟩ := ih
    exact entering.exists_next passes leads

/-- Tasks take back nothing that was told. -/
theorem events_run (h : c.Orderly) (target : Millis) (n : Nat) :
    c.stage.events.toList <+: (c.run target n).stage.events.toList := by
  refine h.run_of_step? (P := fun d => c.stage.events.toList <+: d.stage.events.toList) ?_
    (List.prefix_refl _) n
  intro d e o told hs
  obtain ⟨m, hm⟩ := o.mode
  obtain ⟨m', turn, -⟩ := turn_of_step? o.sound hm hs
  obtain ⟨es, said, adds, -⟩ := turn.adds
  rw [adds.events]
  exact told.trans (List.prefix_append _ _)

/-- Some run enters each scene that can be reached. -/
theorem exists_told {s : Setup} (hb : s.build = .ok c₀) (h : c₀.script.Reaches sc) :
    ∃ limit calls c log, c₀.play? limit calls = some (c, log) ∧
      .sceneEntered sc.name ∈ (Transcript.ofLog log).told c := by
  obtain ⟨d, ⟨n, limit, calls, log, played⟩, entering⟩ := exists_entering hb h
  have kept : d.stage.events.toList <+: (d.run .last n).stage.events.toList :=
    events_run entering.toOrderly .last n
  exact ⟨limit, calls, _, log, played, List.mem_append_right _ (kept.subset entering.told)⟩

/-- Some run comes to the end of each scene that can be reached and ends the walk. -/
theorem exists_closed {s : Setup} (hb : s.build = .ok c₀) (h : c₀.script.Reaches sc)
    (exit : sc.exit = .close) : ∃ c, c₀.Reaches c ∧ c.isClosed = true := by
  obtain ⟨d, passes, entering⟩ := exists_entering hb h
  obtain ⟨e, m, u, t, passes, -, hm, -, -, leaves⟩ := entering.exists_leaves passes
  obtain rfl : m = .closed sc := leaves.eq_of_close exit
  have reached : c₀.Reaches e := passes.reaches (step?_eq_none_of_tasksLeft hm rfl)
  exact ⟨e, reached, congrArg Control.closed hm.stage.control⟩

/-- A conversation has come to its end in a scene that can be reached and ends the walk. -/
theorem Underway.exit_of_isClosed (h : c.Underway script) (closed : c.isClosed = true) :
    ∃ sc, script.Reaches sc ∧ sc.exit = .close := by
  obtain ⟨m, hm⟩ := h.mode
  have control : c.isClosed = m.control.closed := congrArg Control.closed hm.stage.control
  rw [control] at closed
  cases m with
  | closed sc => exact ⟨sc, h.reaches _ hm sc rfl, hm.stage.exit⟩
  | _ => cases closed

/-- The warnings about a script that can be played are right. One says that a scene is unreachable
exactly if no run of the conversation enters the scene, and one that there is no ending exactly if
no run comes to an end. -/
theorem warnings_of_build {s : Setup} (hb : s.build = .ok c₀) :
    (∀ sc ∈ c₀.script.scenes, .unreachable sc.name c₀.script.start ∈ c₀.script.issues ↔
      ∀ limit calls c log, c₀.play? limit calls = some (c, log) →
        .sceneEntered sc.name ∉ (Transcript.ofLog log).told c) ∧
    (.noEnding ∈ c₀.script.issues ↔ ∀ c, c₀.Reaches c → c.isClosed = false) := by
  constructor
  · intro sc known
    rw [Script.unreachable_mem_issues_iff known]
    constructor
    · intro missing limit calls c log played mem
      have visited := kept_visited.play (visited_of_build hb) played
      have found : sc.name ∈ c₀.script.reachable :=
        Script.mem_reachable_iff.2 (visited.entered sc.name mem)
      exact missing ((Script.name_mem_reachable_iff known).1 found)
    · intro never reached
      obtain ⟨limit, calls, c, log, played, told⟩ := exists_told hb reached
      exact never limit calls c log played told
  · rw [Script.noEnding_mem_issues_iff]
    constructor
    · intro endless c reached
      apply Bool.eq_false_iff.2
      intro closed
      obtain ⟨sc, path, exit⟩ := (underway_of_reaches hb reached).exit_of_isClosed closed
      exact endless sc path exit
    · intro never sc path exit
      obtain ⟨c, reached, closed⟩ := exists_closed hb path exit
      rw [never c reached] at closed
      cases closed

end Inquest.Conversation

/-! A case without an end: who takes the ride goes round for ever, and nobody comes to the attic. -/

namespace Inquest.Carousel

def gate : Scene where
  name := "gate"
  leadIn := 0
  narration := .lines []
  exit := .gate .choice [⟨⟨"Take the ride", "ride"⟩, "tick"⟩, ⟨⟨"Look on", "stay"⟩, "gate"⟩]

/-- The half of the round that takes time. -/
def tick : Scene where
  name := "tick"
  leadIn := 100
  narration := .lines []
  exit := .proceed "tock"

/-- The half of the round in which something is said. -/
def tock : Scene where
  name := "tock"
  leadIn := 0
  narration := .lines [⟨[.literal "Round again!"]⟩]
  exit := .proceed "tick"

def attic : Scene where
  name := "attic"
  leadIn := 0
  narration := .lines []
  exit := .close

def script : Script where
  title := "Carousel"
  suspect := "Flora Jasmine"
  start := "gate"
  scenes := [gate, tick, tock, attic]
  nodup_names := by decide

theorem sound_script : script.Sound where
  start := by decide
  exits := by
    intro sc hsc
    simp only [script, List.mem_cons, List.not_mem_nil, or_false] at hsc
    rcases hsc with rfl | rfl | rfl | rfl
    · exact ⟨by decide, by rintro kind options ⟨⟩; simp, by decide, by rintro options ⟨⟩⟩
    all_goals
      apply Exit.sound_of_ne_gate (by decide)
      intro kind options exit
      cases exit

def setup : Setup := { script := .given script, pacing := .given .instant }

def opening : Conversation := { stage := .opening script .instant .reference none }

theorem build_setup : setup.build = .ok opening := Setup.build_of_given sound_script rfl rfl

theorem eq_of_reaches {sc : Scene} (h : script.Reaches sc) : sc = gate ∨ sc = tick ∨ sc = tock := by
  obtain ⟨first, found, path⟩ := h
  induction path with
  | refl =>
    cases found
    exact .inl rfl
  | tail _ leads ih =>
    obtain ⟨next, target, found⟩ := leads
    rcases ih with rfl | rfl | rfl
    · simp only [gate, Exit.targets, List.map_cons, List.map_nil, List.mem_cons,
        List.not_mem_nil, or_false] at target
      rcases target with rfl | rfl
      · cases found
        exact .inr (.inl rfl)
      · cases found
        exact .inl rfl
    · obtain rfl : next = "tock" := by simpa [tick, Exit.targets] using target
      cases found
      exact .inr (.inr rfl)
    · obtain rfl : next = "tick" := by simpa [tock, Exit.targets] using target
      cases found
      exact .inr (.inl rfl)

/-- The case is warned of an attic that no run enters and of having no end, and not of the ride. -/
theorem warnings_of_ride :
    setup.build = .ok opening ∧ .unreachable "attic" "gate" ∈ script.issues ∧
      .noEnding ∈ script.issues ∧ .unreachable "tock" "gate" ∉ script.issues ∧
      (∀ limit calls c log, opening.play? limit calls = some (c, log) →
        .sceneEntered "attic" ∉ (Transcript.ofLog log).told c) ∧
      ∀ c, opening.Reaches c → c.isClosed = false := by
  obtain ⟨entered, ended⟩ := Conversation.warnings_of_build build_setup
  have attic_mem : attic ∈ script.scenes := by decide
  have tock_mem : tock ∈ script.scenes := by decide
  have warned : .unreachable "attic" "gate" ∈ script.issues := by
    apply (Script.unreachable_mem_issues_iff attic_mem).2
    intro reached
    have missing : ¬(attic = gate ∨ attic = tick ∨ attic = tock) := by decide
    exact missing (eq_of_reaches reached)
  have endless : .noEnding ∈ script.issues := by
    apply Script.noEnding_mem_issues_iff.2
    intro sc reached
    rcases eq_of_reaches reached with rfl | rfl | rfl <;> decide
  refine ⟨build_setup, warned, endless, ?_, (entered attic attic_mem).1 warned, ended.1 endless⟩
  intro warned_of_tock
  obtain ⟨c, log, played, told⟩ : ∃ c log,
      opening.play? 10 [.start, .runUntilIdle, .choose "ride", .advance 100] = some (c, log) ∧
        .sceneEntered "tock" ∈ (Transcript.ofLog log).told c := ⟨_, _, rfl, by decide⟩
  exact (entered tock tock_mem).1 warned_of_tock _ _ c log played told

end Inquest.Carousel
