import Inquest.Proofs.Dialogue.Reply
/-!
# The story of a dialogue

The story of a script leaves time out: it enters a scene, says its lines, goes through its exit, and
where the exit asks, takes the next of the options that a player has picked. Here each turn of a
stage and each reply of the player is shown to tell the next part of such a story.
-/

namespace Inquest

/-- The event without the number and the time of its line. -/
def Event.bare : Event → Event
  | lineRevealed line => lineRevealed { line with id := 0, createdAt := 0 }
  | e => e

/-- A line is said, by whom and which. -/
def Event.said (speaker : Speaker) (text : String) : Event := .lineRevealed ⟨0, speaker, text, 0⟩

structure Plot where
  script : Script
  suspect : String
  /-- The counts that are recorded when a verdict is. -/
  tally : Tally

structure Memory where
  /-- The verdict and the counts recorded with it. -/
  ruling : Option (Verdict × Tally) := none
  nextDecision : Nat := 1

namespace Plot

/-- What lines are filled from. Before a verdict is recorded all counts are zero. -/
def scope (p : Plot) (m : Memory) : Scope where
  summary := (m.ruling.map (·.2)).getD {}
  suspect := p.suspect
  verdict := m.ruling.map (·.1)

def lines (p : Plot) (m : Memory) (sc : Scene) : List String :=
  Narrator.spoken
    ((sc.linesFor (p.scope m).verdict (p.scope m).summary).map (·.render (p.scope m)))

def saying (line : String) : List Event := [.typingStarted, .typingStopped, .said .narrator line]

/-- All that the narrator does in a scene. -/
def talk (p : Plot) (m : Memory) (sc : Scene) : List Event :=
  if p.lines m sc = [] then [] else (p.lines m sc).flatMap saying ++ [.queueDrained]

/-- What is remembered after a decision. Only the first verdict is recorded. -/
def decide (p : Plot) (m : Memory) (verdict : Option Verdict) : Memory where
  ruling := m.ruling.or (verdict.map (·, p.tally))
  nextDecision := m.nextDecision + 1

/-- The player picks an option: its label is said, the decision is resolved, and the verdict is
reported if it is the first. -/
def picking (m : Memory) (sc : Scene) (o : GateOption) : List Event :=
  [.said .responder o.label, .decisionResolved m.nextDecision o.value] ++
    if m.ruling.isSome then [] else (sc.exit.verdict? o.value).toList.map .verdictReported

/-- The first `n` scenes of the story from a scene on, for a player who picks options with the given
values, and then no more. -/
def story (p : Plot) : Nat → Memory → String → List String → List Event
  | 0, _, _, _ => []
  | n + 1, m, name, picks =>
    match p.script.scene? name with
    | none => []
    | some sc =>
      .sceneEntered name :: p.talk m sc ++
      match sc.exit, picks with
      | .proceed next, _ => p.story n m next picks
      | .close, _ => [.finished]
      | .gate .., [] => [.decisionPresented (Mode.decision sc m.nextDecision)]
      | .gate _ options, value :: picks =>
        .decisionPresented (Mode.decision sc m.nextDecision) ::
        match options.find? (·.value = value) with
        | none => []
        | some o => picking m sc o ++ p.story n (p.decide m (sc.exit.verdict? o.value)) o.next picks

/-- With the picks, the story from the start tells the events and then goes on from a scene. -/
def Leads (p : Plot) (picks : List String) (es : List Event) (m : Memory) (name : String) : Prop :=
  ∃ k, ∀ n more, p.story (k + n) {} p.script.start (picks ++ more) = es ++ p.story n m name more

variable {p : Plot} {m : Memory} {sc : Scene} {picks : List String} {es : List Event}

/-- The number of the next decision does not matter to the narrator. -/
@[simp] theorem talk_nextDecision (number : Nat) :
    p.talk { m with nextDecision := number } sc = p.talk m sc := rfl

theorem leads_start : p.Leads [] [] {} p.script.start :=
  ⟨0, fun n more => by rw [Nat.zero_add]; rfl⟩

/-- After the events the story enters the scene that they lead to. -/
theorem Leads.story_eq {name : String} (h : p.Leads picks es m name) :
    ∃ k, ∀ n ≥ k + 1, ∃ j, ∀ more, p.story n {} p.script.start (picks ++ more) =
      es ++ p.story (j + 1) m name more := by
  obtain ⟨k, h⟩ := h
  refine ⟨k, fun n hn => ⟨n - k - 1, fun more => ?_⟩⟩
  rw [← h]
  congr 1
  omega

/-- The story goes on where a scene leads to. -/
theorem Leads.proceed {next : String} (h : p.Leads picks es m sc.name)
    (known : p.script.scene? sc.name = some sc) (exit : sc.exit = .proceed next) :
    p.Leads picks (es ++ .sceneEntered sc.name :: p.talk m sc) m next := by
  obtain ⟨k, h⟩ := h
  refine ⟨k + 1, fun n more => ?_⟩
  rw [Nat.add_assoc, Nat.add_comm 1 n, h]
  simp [story, known, exit]

/-- The story goes on where the option leads to that is picked. -/
theorem Leads.pick {kind : GateKind} {options : List GateOption} {value : String} {o : GateOption}
    (h : p.Leads picks es m sc.name) (known : p.script.scene? sc.name = some sc)
    (exit : sc.exit = .gate kind options) (ho : options.find? (·.value = value) = some o) :
    p.Leads (picks ++ [value])
      (es ++ .sceneEntered sc.name :: p.talk m sc ++
        .decisionPresented (Mode.decision sc m.nextDecision) :: picking m sc o)
      (p.decide m (sc.exit.verdict? o.value)) o.next := by
  obtain ⟨k, h⟩ := h
  refine ⟨k + 1, fun n more => ?_⟩
  rw [Nat.add_assoc, Nat.add_comm 1 n, List.append_assoc, h]
  simp [story, known, exit, ho]

end Plot

/-- How far the story has been told in a mode: the scenes before the current one, and of that one
what comes before the next turn. -/
def Mode.Told (p : Plot) (m : Memory) (picks : List String) (told : List Event) : Mode → Prop
  | unstarted => picks = [] ∧ told = [] ∧ m = {}
  | leadIn sc _ => ∃ es, p.Leads picks es m sc.name ∧ told = es ++ [.sceneEntered sc.name]
  | typing sc _ line rest => ∃ es before, p.Leads picks es m sc.name ∧
      p.lines m sc = before ++ line :: rest ∧
      told = es ++ .sceneEntered sc.name :: before.flatMap Plot.saying ++ [.typingStarted]
  | pause sc _ rest => ∃ es before, p.Leads picks es m sc.name ∧
      p.lines m sc = before ++ rest ∧ before ≠ [] ∧
      told = es ++ .sceneEntered sc.name :: before.flatMap Plot.saying
  | asking sc number => ∃ es, p.Leads picks es { m with nextDecision := number } sc.name ∧
      m.nextDecision = number + 1 ∧
      told = es ++ .sceneEntered sc.name :: p.talk m sc ++
        [.decisionPresented (Mode.decision sc number)]
  | closed sc => ∃ es, p.Leads picks es m sc.name ∧
      told = es ++ .sceneEntered sc.name :: p.talk m sc ++ [.finished]

namespace Plot

variable {p : Plot} {m : Memory} {sc : Scene} {picks : List String} {told : List Event}

/-- After the scenes before it, the story of the current scene begins with what has been told. -/
theorem prefix_story_succ {mode : Mode} (known : ∀ sc, mode.scene? = some sc →
      p.script.scene? sc.name = some sc) (fits : mode.ExitFits) (begun : mode ≠ .unstarted)
    (h : mode.Told p m picks told) :
    ∃ es m' name, p.Leads picks es m' name ∧
      ∀ j, (∀ more, told <+: es ++ p.story (j + 1) m' name more) ∧
        (mode.control.pending = [] → told = es ++ p.story (j + 1) m' name []) := by
  cases mode with
  | unstarted => exact absurd rfl begun
  | leadIn sc due =>
    obtain ⟨es, leads, rfl⟩ := h
    refine ⟨es, m, sc.name, leads, fun j => ⟨fun more => ?_, nofun⟩⟩
    rw [List.prefix_append_right_inj]
    simp [story, known sc rfl]
  | typing sc due line rest =>
    obtain ⟨es, before, leads, lines, rfl⟩ := h
    refine ⟨es, m, sc.name, leads, fun j => ⟨fun more => ?_, nofun⟩⟩
    rw [List.append_assoc, List.prefix_append_right_inj]
    simp [story, known sc rfl, talk, lines, saying]
  | pause sc due rest =>
    obtain ⟨es, before, leads, lines, some_line, rfl⟩ := h
    refine ⟨es, m, sc.name, leads, fun j => ⟨fun more => ?_, nofun⟩⟩
    rw [List.prefix_append_right_inj]
    simp [story, known sc rfl, talk, lines, some_line]
  | asking sc number =>
    obtain ⟨kind, options, exit, -⟩ := fits
    obtain ⟨es, leads, -, rfl⟩ := h
    refine ⟨es, _, sc.name, leads, fun j => ⟨fun more => ?_, fun _ => ?_⟩⟩
    · rw [List.append_assoc, List.prefix_append_right_inj]
      cases more <;> simp [story, known sc rfl, exit]
    · rw [List.append_assoc]
      simp [story, known sc rfl, exit]
  | closed sc =>
    have exit : sc.exit = .close := fits
    obtain ⟨es, leads, rfl⟩ := h
    refine ⟨es, m, sc.name, leads, fun j => ⟨fun more => ?_, fun _ => ?_⟩⟩
    · rw [List.append_assoc, List.prefix_append_right_inj]
      simp [story, known sc rfl, exit]
    · rw [List.append_assoc]
      simp [story, known sc rfl, exit]

/-- What has been told is the beginning of the story, whatever the player picks next. Where the mode
waits for no task it is all of the story. -/
theorem prefix_story {mode : Mode} (known : ∀ sc, mode.scene? = some sc →
      p.script.scene? sc.name = some sc) (fits : mode.ExitFits) (h : mode.Told p m picks told) :
    ∃ N, ∀ n ≥ N, (∀ more, told <+: p.story n {} p.script.start (picks ++ more)) ∧
      (mode ≠ .unstarted → mode.control.pending = [] →
        told = p.story n {} p.script.start picks) := by
  by_cases begun : mode = .unstarted
  · -- Nothing is told before the start, and there is no scene at which to unfold the story.
    subst begun
    obtain ⟨-, rfl, -⟩ := h
    exact ⟨0, fun n _ => ⟨fun more => List.nil_prefix, fun begun => absurd rfl begun⟩⟩
  · obtain ⟨es, m', name, leads, upto⟩ := prefix_story_succ known fits begun h
    obtain ⟨k, unfolds⟩ := leads.story_eq
    refine ⟨k + 1, fun n hn => ?_⟩
    obtain ⟨j, eq⟩ := unfolds n hn
    refine ⟨fun more => eq more ▸ (upto j).1 more, fun _ quiet => ?_⟩
    rw [(upto j).2 quiet, ← eq, List.append_nil]

end Plot

def Stage.memory (s : Stage) : Memory where
  ruling := s.hearing.ruling.map fun r => (r.verdict, r.report.summary)
  nextDecision := s.hearing.nextDecision

/-- The plot is that of the stage: its counts are those recorded, if a verdict is. -/
structure Plot.Fits (p : Plot) (s : Stage) : Prop where
  script : p.script = s.walk.script
  suspect : p.suspect = s.walk.suspect
  tally : ∀ r, s.hearing.ruling = some r → p.tally = r.report.summary

namespace Stage

variable {p : Plot} {s t u : Stage} {m m' : Mode} {sc : Scene} {picks : List String}
  {seen es : List Event}

/-- A plot that fits a stage says the lines that the stage says. -/
theorem lines_memory (suspect : p.suspect = s.walk.suspect) :
    p.lines s.memory sc = Narrator.spoken (s.linesOf sc) := by
  have scope : p.scope s.memory = s.scope := by
    simp [Plot.scope, Stage.scope, memory, suspect, Hearing.accuracy?, Hearing.verdict?,
      Function.comp_def]
  rw [Plot.lines, scope]
  rfl

/-- When the narrator has finished with a scene, all of its lines have been told. -/
theorem Hushed.told (h : s.Hushed m sc t) (fits : p.Fits s) (ht : m.Told p s.memory picks seen) :
    t.memory = s.memory ∧ ∃ es front, t.events.toList = s.events.toList ++ front ∧
      p.Leads picks es s.memory sc.name ∧
      seen ++ front.map Event.bare = es ++ .sceneEntered sc.name :: p.talk s.memory sc := by
  cases h with
  | silent lines =>
    obtain ⟨es, leads, rfl⟩ := ht
    rw [← lines_memory fits.suspect] at lines
    exact ⟨rfl, es, [], by simp, leads, by simp [Plot.talk, lines]⟩
  | drained =>
    obtain ⟨es, before, leads, lines, some_line, rfl⟩ := ht
    rw [List.append_nil] at lines
    refine ⟨rfl, es, [.queueDrained], by simp, leads, ?_⟩
    simp [Plot.talk, lines, some_line, Event.bare]

/-- The exit of a scene tells what the story tells after the scene's lines. -/
theorem Leaves.told (h : t.Leaves sc m u) (known : p.script.scene? sc.name = some sc)
    (leads : p.Leads picks es t.memory sc.name) :
    ∃ back, u.events.toList = t.events.toList ++ back ∧
      m.Told p u.memory picks
        (es ++ .sceneEntered sc.name :: p.talk t.memory sc ++ back.map Event.bare) := by
  cases h with
  | @proceed next sc' exit found =>
    have name : sc'.name = next := (Script.mem_of_scene? found).2
    refine ⟨[.sceneEntered sc'.name], by simp [entering], _, ?_, rfl⟩
    exact name ▸ leads.proceed known exit
  | ask exit =>
    exact ⟨[.decisionPresented (Mode.decision sc t.hearing.nextDecision)], by simp, es, leads, rfl,
      rfl⟩
  | close exit => exact ⟨[.finished], by simp, es, leads, rfl⟩

/-- A turn tells the next part of the story. -/
theorem Turn.told (h : s.Turn m m' t) (hm : s.In m) (fits : p.Fits s)
    (ht : m.Told p s.memory picks seen) :
    ∃ es, t.events.toList = s.events.toList ++ es ∧
      m'.Told p t.memory picks (seen ++ es.map Event.bare) := by
  cases h with
  | begin lines =>
    obtain ⟨es, leads, rfl⟩ := ht
    rw [← lines_memory fits.suspect] at lines
    exact ⟨[.typingStarted], by simp, es, [], leads, lines, by simp [Event.bare]⟩
  | @reveal sc due line rest =>
    obtain ⟨es, before, leads, lines, rfl⟩ := ht
    refine ⟨[.typingStopped, .lineRevealed ((s.wake due).nextLine line)], by simp, es,
      before ++ [line], leads, ?_, by simp, ?_⟩
    · rw [List.append_assoc]
      exact lines
    · simp [Event.bare, Plot.saying, Event.said, nextLine]
  | goOn =>
    obtain ⟨es, before, leads, lines, some_line, rfl⟩ := ht
    exact ⟨[.typingStarted], by simp, es, before, leads, lines, by simp [Event.bare]⟩
  | leave hushed leaves =>
    obtain ⟨memory, es, front, events, leads, spoken⟩ := hushed.told fits ht
    have known := hm.known _ hushed.scene?
    rw [← fits.script] at known
    obtain ⟨back, events', goes_on⟩ := leaves.told known (memory ▸ leads)
    refine ⟨front ++ back, by rw [events', events, List.append_assoc], ?_⟩
    rw [List.map_append, ← List.append_assoc, spoken, ← memory]
    exact goes_on

/-- A reply that stands is remembered as the story remembers it. -/
theorem memory_accept {number : Nat} {o : GateOption} (fits : p.Fits (s.accept (sc.reply number o)))
    (next : s.hearing.nextDecision = number + 1) :
    (s.accept (sc.reply number o)).memory =
      p.decide { s.memory with nextDecision := number } (sc.exit.verdict? o.value) := by
  have tally := fits.tally
  rw [ruling_accept] at tally
  simp only [memory, Plot.decide, ruling_accept, nextDecision_accept, next]
  cases hr : s.hearing.ruling with
  | some r => rfl
  | none =>
    -- A verdict of this reply is the first, and its counts are those of the plot.
    cases hv : sc.exit.verdict? o.value with
    | none => simp [Scene.reply, hv]
    | some v => simp [Scene.reply, hv, tally ⟨v, s.grade?.getD {}⟩ (by simp [hr, hv, Scene.reply])]

/-- A reply that stands, with the scene entered after it, tells the next part of the story. -/
theorem told_accept {number : Nat} {o : GateOption} {sc' : Scene} {value : String} {due : Millis}
    (hm : s.In (.asking sc number)) (ho : sc.exit.options.find? (·.value = value) = some o)
    (name : sc'.name = o.next) (fits : p.Fits (s.accept (sc.reply number o)))
    (ht : (Mode.asking sc number).Told p s.memory picks seen) :
    ∃ es, ((s.accept (sc.reply number o)).entering sc').events.toList = s.events.toList ++ es ∧
      (Mode.leadIn sc' due).Told p (s.accept (sc.reply number o)).memory (picks ++ [value])
        (seen ++ es.map Event.bare) := by
  obtain ⟨es, leads, next, rfl⟩ := ht
  obtain ⟨kind, options, exit, -⟩ := hm.exit
  have known : p.script.scene? sc.name = some sc := by
    rw [fits.script, walk_accept]
    exact hm.known sc rfl
  rw [exit] at ho
  have picked := leads.pick known exit ho
  rw [← memory_accept fits next, ← name] at picked
  have recorded : s.hearing.ruling.isSome = s.memory.ruling.isSome := by simp [memory]
  have verdicts : Event.bare ∘ Event.verdictReported = Event.verdictReported := rfl
  refine ⟨_, events_entering_accept _ sc', _, picked, ?_⟩
  simp [Plot.picking, Event.bare, Event.said, replyLine, Scene.reply, Mode.decision, recorded,
    apply_ite (List.map Event.bare), verdicts]

end Stage

end Inquest
