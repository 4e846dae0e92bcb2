import Inquest.Proofs.Conversation.Travel
/-!
# Conversations that come to rest

Moving the clock to the end of time returns from every state of a conversation exactly if no scene
that can be reached lies on a round of scenes that go straight on. Where there is such a round, but
every round takes time, moving the clock to any earlier time returns all the same.
-/

namespace Inquest.Conversation

variable {script : Script} {c d : Conversation} {m m' : Mode} {sc : Scene} {target : Millis}
  {round : List Scene}

/-! Scripts that come to rest. -/

/-- Every task leaves fewer tasks ahead. -/
theorem Underway.tasksAhead_lt (h : c.Underway script) (restful : script.Restful)
    (turn : c.stage.Turn m m' d.stage) (under : d.Underway script) (hm' : d.In m') :
    m'.tasksAhead script script.Proceeds < m.tasksAhead script script.Proceeds := by
  obtain rfl : c.script = script := h.plays
  have once : ∀ sc, m'.scene? = some sc → ¬Relation.TransGen c.script.Proceeds sc sc := by
    intro sc hsc
    exact restful.once (under.reaches m' hm' sc hsc)
  rcases turn.tasksAhead_lt once with less | ⟨sc, sc', next, other, -⟩
  · exact less
  · exact absurd next other

/-- What lies ahead is never more than the tasks of all scenes. -/
theorem Underway.tasksAhead_le {r : Scene → Scene → Prop} (h : c.Underway script) (hm : c.In m)
    (once : ∀ sc, m.scene? = some sc → ¬Relation.TransGen r sc sc) :
    m.tasksAhead script r ≤ script.tasks := by
  apply Mode.tasksAhead_le (h.paced m hm) _ once
  intro sc hsc
  exact (Script.mem_of_scene? (h.reaches m hm sc hsc).known).1

/-- All that is due is done after as many tasks as all scenes have. -/
theorem Underway.step?_run_tasks (h : c.Underway script) (restful : script.Restful)
    (target : Millis) : (c.run target script.tasks).step? target = none := by
  obtain ⟨m, hm⟩ := h.mode
  apply h.step?_run_of_measure (Mode.tasksAhead script script.Proceeds) _ hm
  · apply h.tasksAhead_le hm
    intro sc hsc
    exact restful.once (h.reaches m hm sc hsc)
  · intro c d m m' h _ _ turn under hm'
    exact h.tasksAhead_lt restful turn under hm'

theorem started_run (c : Conversation) (target : Millis) (n : Nat) :
    (c.run target n).started = c.started := by
  apply run_of_step? (P := fun d => d.started = c.started)
  · intro d e same hs
    unfold step? at hs
    split at hs
    · cases hs
    · cases hs
      exact same
  · rfl

/-- Where nothing more is due, nothing is planned, and a conversation that was started waits for the
player or has ended. -/
theorem Orderly.rests (h : c.Orderly) (quiet : c.step? .last = none) :
    c.nextDue? = none ∧ (c.started = true → c.decision?.isSome ∨ c.isClosed = true) := by
  have idle : c.nextDue? = none := by
    rw [step?_eq_none_iff, nextDue?_any_last] at quiet
    simpa using quiet
  refine ⟨idle, ?_⟩
  intro started
  obtain ⟨m, hm⟩ := h.mode
  rw [nextDue?_of_in hm] at idle
  cases m with
  | unstarted => exact absurd rfl (hm.started.1 started)
  | leadIn | typing | pause => cases idle
  | asking sc number =>
    left
    rw [decision?_of_asking hm]
    rfl
  | closed sc =>
    right
    exact congrArg Control.closed hm.stage.control

/-! Scripts that go round for ever. -/

/-- A conversation in a scene of a round, with a task planned. -/
structure Circling (script : Script) (round : List Scene) (c : Conversation) :
    Prop extends Underway script c where
  goes : ∃ m sc, c.In m ∧ m.scene? = some sc ∧ sc ∈ round ∧ 0 < m.tasksLeft

/-- A round is never left, and there is always one more task. -/
theorem Circling.exists_step? (h : c.Circling script round)
    (circuit : Circuit script.Proceeds round) :
    ∃ d, c.step? .last = some d ∧ d.Circling script round := by
  obtain ⟨m, sc, hm, here, mem, left⟩ := h.goes
  obtain ⟨d, hs⟩ := exists_step?_last hm left
  obtain ⟨m', turn, hm'⟩ := turn_of_step? h.sound hm hs
  refine ⟨d, hs, kept_underway.task (t := {}) h.toUnderway hs, ?_⟩
  rcases turn.stays_or_leaves with ⟨same, left', -⟩ | ⟨sc₁, u, hushed, leaves⟩
  · exact ⟨m', sc, hm', same.trans here, mem, left'⟩
  · obtain rfl : sc = sc₁ := Option.some.inj (here.symm.trans hushed.scene?)
    obtain ⟨sc', mem', next⟩ := circuit.exists_next mem
    have plays : c.stage.walk.script = script := h.plays
    have goes_on : u.walk.script.Proceeds sc sc' := by
      rw [hushed.script, plays]
      exact next
    obtain rfl := leaves.eq_of_proceeds goes_on
    exact ⟨_, sc', hm', rfl, mem', Mode.tasksLeft_leadIn_pos _ _⟩

theorem Circling.run (h : c.Circling script round) (circuit : Circuit script.Proceeds round)
    (n : Nat) : (c.run .last n).Circling script round := by
  apply run_of_step? (P := fun d => d.Circling script round) _ h
  intro d e hd hs
  obtain ⟨e', hs', he⟩ := hd.exists_step? circuit
  rw [hs] at hs'
  cases hs'
  exact he

/-- On a round, moving the clock to the end of time does not return. -/
theorem Circling.advanceTo?_eq_none (h : c.Circling script round)
    (circuit : Circuit script.Proceeds round) (limit : Nat) : c.advanceTo? limit .last = none := by
  obtain ⟨d, hs, -⟩ := (h.run circuit limit).exists_step? circuit
  have due := due_of_step?_eq_some hs
  simp only [advanceTo?, due, ↓reduceIte]

theorem Entering.circling (h : c.Entering script sc) (mem : sc ∈ round) :
    c.Circling script round := by
  obtain ⟨due, waits⟩ := h.waits
  exact ⟨h.toUnderway, _, sc, waits, rfl, mem, Mode.tasksLeft_leadIn_pos sc due⟩

variable {c₀ : Conversation}

/-- Moving the clock to the end of time returns from every state of a conversation that was set up
exactly if the script comes to rest. Then no call runs more tasks than all scenes have, and moving
the clock anywhere returns; if a wait for idleness may run as many, it ends with nothing planned,
and, after the start, with a decision on screen or at the end. -/
theorem rests_iff_of_build {s : Setup} (hb : s.build = .ok c₀) :
    ((∀ c, c₀.Reaches c → ∃ limit c', c.advanceTo? limit .last = some c') ↔
      c₀.script.Restful) ∧
    (c₀.script.Restful → ∀ c, c₀.Reaches c →
      (∀ target limit, c.ran target limit ≤ c₀.script.tasks) ∧
      (∀ target, ∃ c', c.advanceTo? c₀.script.tasks target = some c') ∧
      (∀ delay, ∃ c', c.advance? c₀.script.tasks delay = some c') ∧
      (c₀.script.tasks ≤ maxSteps → c.runUntilIdle.nextDue? = none ∧
        (c.started = true →
          c.runUntilIdle.decision?.isSome ∨ c.runUntilIdle.isClosed = true))) := by
  have quiet : c₀.script.Restful → ∀ c, c₀.Reaches c → ∀ target,
      (c.run target c₀.script.tasks).step? target = none := by
    intro restful c reached target
    exact (underway_of_reaches hb reached).step?_run_tasks restful target
  refine ⟨⟨?_, ?_⟩, ?_⟩
  · intro returns round circuit sc mem reached
    obtain ⟨d, ⟨n, passes⟩, entering⟩ := exists_entering hb reached
    obtain ⟨limit, c', returned⟩ := returns _ passes
    rw [((entering.circling mem).run circuit n).advanceTo?_eq_none circuit] at returned
    cases returned
  · intro restful c reached
    exact ⟨_, advanceTo?_of_quiet (quiet restful c reached .last)⟩
  · intro restful c reached
    refine ⟨?_, ?_, ?_, ?_⟩
    · intro target limit
      exact ran_le (quiet restful c reached target) limit
    · intro target
      exact advanceTo?_of_quiet (quiet restful c reached target)
    · intro delay
      exact advanceTo?_of_quiet (quiet restful c reached _)
    · intro enough
      have still : c.runUntilIdle.step? .last = none := by
        obtain ⟨more, eq⟩ := Nat.exists_eq_add_of_le enough
        rw [runUntilIdle, eq, run_add, run_of_step?_eq_none (quiet restful c reached .last)]
        exact quiet restful c reached .last
      have orderly : c.runUntilIdle.Orderly :=
        kept_orderly.toSteady.run (t := {}) (orderly_of_reaches hb reached) .last maxSteps
      obtain ⟨idle, rests⟩ := orderly.rests still
      refine ⟨idle, ?_⟩
      intro started
      apply rests
      rw [runUntilIdle, started_run]
      exact started

/-! Scripts that take time. -/

/-- No task is planned for a time that is past. -/
theorem Prompt.now_le_due {due : Millis} (h : c.Prompt) (hm : c.In m) (hdue : m.due? = some due) :
    c.now ≤ due := by
  obtain ⟨timer, first, rfl⟩ := Option.map_eq_some_iff.1 hdue
  apply h.punctual timer
  rw [hm.pending]
  exact List.mem_of_mem_head? first

/-- A task moves the clock to the time when it was due. -/
theorem Prompt.now_of_turn {due : Millis} (h : c.Prompt) (hm : c.In m)
    (hdue : m.due? = some due) (turn : c.stage.Turn m m' d.stage) : d.now = due := by
  have moved : d.now = max c.now due := turn.now_eq hdue
  rw [moved, Millis.max_eq_right (h.now_le_due hm hdue)]

/-- Where every round takes time, every task leaves fewer to run until a time: either fewer lie
ahead until a scene waits before its lines, or such a scene is entered and the next task is due
later. -/
theorem Underway.tasksBy_lt (h : c.Underway script) (ticking : script.Ticking)
    (before : target < .last) (hm : c.In m) (hs : c.step? target = some d)
    (turn : c.stage.Turn m m' d.stage) (under : d.Underway script) (hm' : d.In m') :
    m'.tasksBy script target < m.tasksBy script target := by
  obtain rfl : c.script = script := h.plays
  obtain ⟨due, hdue, reached⟩ : ∃ due, m.due? = some due ∧ due ≤ target := by
    have ready := due_of_step?_eq_some hs
    rw [nextDue?_of_in hm] at ready
    simpa [Option.any_eq_true] using ready
  have now : d.now = due := h.now_of_turn hm hdue turn
  have once : ∀ sc, m'.scene? = some sc → ¬Relation.TransGen c.script.ProceedsAtOnce sc sc :=
    fun _ _ => ticking.once
  rcases turn.tasksAhead_lt once with less | ⟨sc, sc', next, waits, rfl⟩
  · apply Mode.tasksBy_lt_of_tasksAhead_lt hdue _ less
    intro due' hdue'
    rw [← now]
    exact under.now_le_due hm' hdue'
  · have positive : 0 < sc'.leadIn := Decidable.byContradiction fun none => waits ⟨next, none⟩
    have later : due < d.now + sc'.leadIn := by
      rw [now]
      exact Millis.lt_add (Nat.lt_of_le_of_lt reached before) positive
    exact Mode.tasksBy_lt_of_due_lt hdue rfl reached later (under.tasksAhead_le hm' once)

/-- Where every round of scenes that go straight on takes time, moving the clock of a conversation
that was set up to any time before the last returns. -/
theorem advanceTo?_of_ticking {s : Setup} (hb : s.build = .ok c₀) (ticking : c₀.script.Ticking)
    (h : c₀.Reaches c) (before : target < .last) :
    ∃ limit c', c.advanceTo? limit target = some c' := by
  have under := underway_of_reaches hb h
  obtain ⟨m, hm⟩ := under.mode
  refine ⟨m.tasksBy c₀.script target, advanceTo?_of_quiet ?_⟩
  apply under.step?_run_of_measure (Mode.tasksBy c₀.script target) _ hm (Nat.le_refl _)
  intro c d m m' h hm hs turn under hm'
  exact h.tasksBy_lt ticking before hm hs turn under hm'

end Inquest.Conversation

namespace Inquest.Gated

/-- No scene of the case goes straight on. -/
theorem restful_script : script.Restful := by
  intro round circuit sc mem reached
  obtain ⟨sc', -, next, exit, -⟩ := circuit.exists_next mem
  have known : sc ∈ script.scenes := (Script.mem_of_scene? reached.known).1
  simp only [script, List.mem_cons, List.not_mem_nil, or_false] at known
  rcases known with rfl | rfl <;> cases exit

end Inquest.Gated

namespace Inquest.Carousel

theorem proceeds_tick_tock : script.Proceeds tick tock := ⟨"tock", rfl, rfl⟩

theorem proceeds_tock_tick : script.Proceeds tock tick := ⟨"tick", rfl, rfl⟩

theorem circuit_tick_tock : Circuit script.Proceeds [tick, tock] where
  chain := by simpa using proceeds_tick_tock
  closes := ⟨tick, rfl, tock, rfl, proceeds_tock_tick⟩

/-- The ride goes round for ever. -/
theorem not_restful_script : ¬script.Restful := by
  intro restful
  have ride : script.Reaches tick := ⟨gate, rfl, .single ⟨"tick", by decide, rfl⟩⟩
  exact restful _ circuit_tick_tock tick (by decide) ride

/-- Each round of the ride takes time. -/
theorem ticking_script : script.Ticking := by
  intro round circuit
  obtain ⟨first, hfirst, -⟩ := circuit.closes
  obtain ⟨sc, mem, into⟩ := circuit.exists_next (List.mem_of_mem_head? hfirst)
  obtain ⟨sc', mem', next⟩ := circuit.exists_next mem
  have known : sc ∈ script.scenes := (Script.mem_of_scene? into.leads.known).1
  simp only [script, List.mem_cons, List.not_mem_nil, or_false] at known
  rcases known with rfl | rfl | rfl | rfl
  · obtain ⟨name, exit, -⟩ := next
    cases exit
  · exact ⟨tick, mem, by decide⟩
  · obtain rfl : tick = sc' := proceeds_tock_tick.unique next
    exact ⟨tick, mem', by decide⟩
  · obtain ⟨name, exit, -⟩ := next
    cases exit

/-- Someone who takes the ride hangs a host that waits for the end of time. The other case always
comes to ask for the verdict or to its end. -/
theorem rests_iff_of_ride :
    setup.build = .ok opening ∧ ¬script.Restful ∧
      (∃ c, opening.Reaches c ∧ ∀ limit, c.advanceTo? limit .last = none) ∧
      Gated.setup.build = .ok Gated.opening ∧ Gated.script.Restful ∧ Gated.script.tasks = 6 ∧
      ∀ c, Gated.opening.Reaches c → (∀ target limit, c.ran target limit ≤ 6) ∧
        (c.started = true → c.runUntilIdle.decision?.isSome ∨ c.runUntilIdle.isClosed = true) := by
  refine ⟨build_setup, not_restful_script, ?_, Gated.build_setup, Gated.restful_script, rfl, ?_⟩
  · refine Classical.byContradiction fun none => not_restful_script ?_
    apply (Conversation.rests_iff_of_build build_setup).1.1
    intro c reached
    obtain ⟨limit, returns⟩ := not_forall.1 fun endless => none ⟨c, reached, endless⟩
    exact ⟨limit, Option.ne_none_iff_exists'.1 returns⟩
  · intro c reached
    obtain ⟨bounded, -, -, rests⟩ :=
      (Conversation.rests_iff_of_build Gated.build_setup).2 Gated.restful_script c reached
    exact ⟨bounded, (rests (by decide)).2⟩

/-- On the ride the clock can be moved to any time but the last, here to the one before it. -/
theorem advanceTo?_of_ride :
    ∃ c log, setup.build = .ok opening ∧ script.Ticking ∧
      opening.play? 10 [.start, .runUntilIdle, .choose "ride"] = some (c, log) ∧
      Millis.ofNat (Millis.maxVal - 1) < .last ∧
      ∃ limit c', c.advanceTo? limit (Millis.ofNat (Millis.maxVal - 1)) = some c' :=
  ⟨_, _, build_setup, ticking_script, rfl, by decide,
    Conversation.advanceTo?_of_ticking build_setup ticking_script
      ⟨10, [.start, .runUntilIdle, .choose "ride"], _, rfl⟩ (by decide)⟩

end Inquest.Carousel
