import Inquest.Proofs.Dialogue.Heard
import Inquest.Proofs.Dialogue.Refusal
import Inquest.Proofs.Dialogue.Trace
/-!
# The cycle of a narrator

A host that keeps to the protocol gives the narrator a cue exactly when it comes off the agenda. It may
queue lines, have the narrator speak and record what the player says whenever it likes. Then one cue is
planned while a line is under way and none otherwise, and no line is left in a queue.
-/

namespace Inquest

open scoped Computability

namespace Narrator

variable {n : Narrator} {p q : Phase}

/-- A step out of a phase without a cue on the agenda. It tells what leads to the next phase, and plans
the cue of that. -/
structure Advances (p : Phase) (after : Narrator × Effects) (q : Phase) : Prop where
  phase : after.1.InPhase q
  timers : after.2.timers.map (·.2) = q.cue?.toList
  tells : ∀ w ∈ p.trace, w ++ beats after.2.events ∈ q.trace

/-- While the protocol is kept, there is never anything to begin. -/
theorem speak_of_inPhase (h : n.InPhase p) : n.speak = (n, .none) := by
  cases p with
  | silent =>
    obtain ⟨free, -, empty⟩ := h
    simp [speak, free, empty]
  | typing => simp [speak, h.1]
  | pausing => simp [speak, h.1]

theorem advances_speak (free : n.busy = false) (queued : n.queue ≠ [])
    (begins : ∀ w ∈ p.trace, w ++ [.started] ∈ Phase.typing.trace) : Advances p n.speak .typing := by
  obtain ⟨text, rest, queue⟩ := List.exists_cons_of_ne_nil queued
  rw [speak_of_cons free queue]
  exact ⟨⟨rfl, rfl, nofun⟩, rfl, begins⟩

theorem advances_enqueue (h : n.InPhase .silent) {lines : List String} (worth : spoken lines ≠ []) :
    Advances .silent (n.heed (.enqueue lines)) .typing := by
  obtain ⟨free, -, -⟩ := h
  have eq : n.heed (.enqueue lines) = { n with queue := n.queue ++ spoken lines }.speak := by
    simp [heed, enqueue, worth]
  rw [eq]
  exact advances_speak free (by simp [worth]) fun _ => Phase.trace_begin

theorem advances_reveal (h : n.InPhase .typing) (now : Millis) :
    Advances .typing (n.reveal now) .pausing := by
  obtain ⟨busy, typing, queued⟩ := h
  obtain ⟨text, rest, queue⟩ := List.exists_cons_of_ne_nil queued
  rw [reveal_of_cons queue, typing]
  exact ⟨⟨busy, rfl⟩, rfl, fun _ => Phase.trace_reveal⟩

theorem advances_resume (h : n.InPhase .pausing) : ∃ q, Advances .pausing (n.heed .resume) q := by
  by_cases empty : n.queue = []
  · rw [heed, resume_of_nil empty]
    exact ⟨.silent, ⟨rfl, h.2, empty⟩, rfl, fun _ => Phase.trace_drain⟩
  · have eq : n.heed .resume = { n with busy := false }.speak := by simp [heed, resume, empty]
    rw [eq]
    exact ⟨.typing, advances_speak rfl empty fun _ => Phase.trace_goOn⟩

/-- Revealing takes one line off the queue and plans one task. -/
theorem left_reveal (h : n.InPhase .typing) (now : Millis) :
    2 * (n.reveal now).1.queue.length + (n.reveal now).2.timers.length + 1 = 2 * n.queue.length := by
  obtain ⟨text, rest, queue⟩ := List.exists_cons_of_ne_nil h.2.2
  simp only [reveal_of_cons queue, queue, queue_push, List.length_cons, List.length_nil]
  omega

/-- After a pause, a task is planned exactly if the narrator types again. -/
theorem left_resume (h : n.InPhase .pausing) :
    n.resume.1.queue = n.queue ∧ n.resume.2.1.timers.length = n.resume.1.typing.toNat := by
  cases queue : n.queue <;> simp [resume, speak, queue, h.2]

/-- While the narrator types, there is a line in its queue. -/
theorem typing_le_length (h : n.InPhase p) : n.typing.toNat ≤ n.queue.length := by
  cases p with
  | silent | pausing => simp [h.2]
  | typing =>
    rw [h.2.1]
    exact List.length_pos_iff.2 h.2.2

/-- Lines that come while a line is under way wait in the queue. -/
theorem enqueue_of_busy (busy : n.busy = true) (lines : List String) :
    n.enqueue lines =
      ({ n with queue := n.queue ++ spoken lines }, .none, (spoken lines).length) := by
  simp [enqueue, speak, busy]

end Narrator

/-- What the protocol asks for when a task comes off the agenda: a cue is given. -/
def Task.answer : Task → List Move
  | reveal => [.reveal]
  | resume => [.resume]
  | narrate _ => []

namespace Stage

/-- A move, with the cue that it takes off the agenda given at once. -/
def attend (s : Stage) (a : Move) : List Move :=
  match a with
  | .pop target => .pop target :: (s.agenda.popDue? target).elim [] (·.1.answer)
  | a => [a]

def attended (s : Stage) : List Move → List Move
  | [] => []
  | a :: ms => s.attend a ++ (s.moves (s.attend a)).attended ms

variable {s t : Stage} {seen : List Event} {p q : Phase}

/-- The narrator is in a phase, the cue of the phase is the only one planned, and what has been told of
the narrator leads there. -/
structure InCycle (s : Stage) (seen : List Event) (p : Phase) : Prop where
  phase : s.hearing.narrator.InPhase p
  cues : s.agenda.cues = p.cue?.toList
  told : beats (seen ++ s.events.toList) ∈ p.trace

theorem InCycle.strides (h : s.InCycle seen p) (a : s.Strides t) : t.InCycle seen p := by
  obtain ⟨es, events, mute⟩ := a.events
  refine ⟨a.narrator ▸ h.phase, a.cues.trans h.cues, ?_⟩
  have hush : beats es = [] := filterMap_of_isMute (fun _ => rfl) (fun _ => rfl) rfl mute
  rw [events, ← List.append_assoc, beats_append, hush, List.append_nil]
  exact h.told

/-- The narrator goes on to another phase. -/
theorem InCycle.advance (h : s.InCycle seen p) {agenda : Agenda} (bare : agenda.cues = [])
    (step : Narrator → Narrator × Effects) (a : Narrator.Advances p (step s.hearing.narrator) q) :
    ({ s with agenda }.onNarrator step).InCycle seen q := by
  have isCue : ∀ c ∈ q.cue?, c.isCue := by
    cases q <;> simp [Phase.cue?, Task.isCue]
  refine ⟨a.phase, Agenda.cues_scheduleAll_of_nil bare isCue a.timers, ?_⟩
  have told := a.tells _ h.told
  rw [← beats_append] at told
  simpa [onNarrator] using told

theorem InCycle.speak_eq (h : s.InCycle seen p) : s.speak = s := by
  simp [speak, onNarrator, Narrator.speak_of_inPhase h.phase, emit, Effects.none]

theorem InCycle.enqueue (h : s.InCycle seen p) (lines : List String) :
    ∃ q, (s.enqueue lines).1.InCycle seen q := by
  have waits (busy : s.hearing.narrator.busy = true)
      (phase : Narrator.InPhase { s.hearing.narrator with
        queue := s.hearing.narrator.queue ++ Narrator.spoken lines } p) :
      (s.enqueue lines).1.InCycle seen p := by
    have eq : (s.enqueue lines).1 = { s with
        hearing.narrator.queue := s.hearing.narrator.queue ++ Narrator.spoken lines } := by
      simp [Stage.enqueue, onNarrator, Narrator.enqueue_of_busy busy, emit, Effects.none]
    rw [eq]
    exact ⟨phase, h.cues, h.told⟩
  by_cases worth : Narrator.spoken lines = []
  · rw [enqueue_of_spoken_eq_nil worth]
    exact ⟨p, h⟩
  · cases p with
    | silent =>
      have begins := Narrator.advances_enqueue h.phase worth
      exact ⟨.typing, h.advance h.cues (·.heed (.enqueue lines)) begins⟩
    | typing =>
      obtain ⟨busy, typing, queued⟩ := h.phase
      exact ⟨.typing, waits busy ⟨busy, typing, by simp [queued]⟩⟩
    | pausing => exact ⟨.pausing, waits h.phase.1 h.phase⟩

/-- What the player says is no beat. -/
theorem InCycle.accept (h : s.InCycle seen p) (r : Reply) : (s.accept r).InCycle seen p := by
  refine ⟨?_, by rw [agenda_accept]; exact h.cues, ?_⟩
  · rw [narrator_accept]
    cases p <;> exact h.phase
  · have mute : beats ([.lineRevealed (s.replyLine r), .decisionResolved r.decision.id r.value] ++
        if s.hearing.ruling.isSome then [] else r.verdict.toList.map .verdictReported) = [] := by
      cases s.hearing.ruling <;> cases r.verdict <;> rfl
    rw [events_accept, ← List.append_assoc, beats_append, mute, List.append_nil]
    exact h.told

theorem InCycle.respond (h : s.InCycle seen p) (text : String) (now : Millis) :
    (s.respond text now).1.InCycle seen p := by
  refine ⟨?_, h.cues, ?_⟩
  · cases p <;> exact h.phase
  · simpa [Stage.respond, onNarrator] using h.told

theorem lasting_inCycle : Lasting fun seen s => ∃ p, s.InCycle seen p where
  strides := fun ⟨p, h⟩ a => ⟨p, h.strides a⟩
  enqueue lines := fun ⟨_, h⟩ => h.enqueue lines
  speak := fun ⟨p, h⟩ => ⟨p, h.speak_eq.symm ▸ h⟩
  respond text now := fun ⟨p, h⟩ => ⟨p, h.respond text now⟩
  accept r := fun ⟨p, h⟩ => ⟨p, h.accept r⟩
  takeEvents := fun ⟨p, h⟩ => ⟨p, h.phase, h.cues, by simpa using h.told⟩

section Protocol

variable {target : Millis} {task : Task} {agenda : Agenda}

theorem attend_of_ne_pop {a : Move} (other : ∀ target, a ≠ .pop target) : s.attend a = [a] := by
  cases a with
  | pop target => exact absurd rfl (other target)
  | _ => rfl

theorem moves_attend_pop (due : s.agenda.popDue? target = some (task, agenda)) :
    s.moves (s.attend (.pop target)) = { s with agenda }.moves task.answer := by
  simp [attend, move, due]

theorem moves_attend_pop_of_none (idle : s.agenda.popDue? target = none) :
    s.moves (s.attend (.pop target)) = s := by
  simp [attend, move, idle]

theorem taken_attend_pop (s : Stage) (target : Millis) : s.taken (s.attend (.pop target)) = [] := by
  cases due : s.agenda.popDue? target with
  | none => simp [attend, due, handed]
  | some first => cases task : first.1 <;> simp [attend, due, task, Task.answer, handed]

/-- The cue that comes off the agenda is that of the phase, and no other is planned. -/
theorem InCycle.cue_eq (h : s.InCycle seen p) (due : s.agenda.popDue? target = some (task, agenda))
    (isCue : task.isCue) : p.cue? = some task ∧ agenda.cues = [] := by
  have cues := h.cues
  rw [Agenda.cues_of_popDue? due, if_pos isCue] at cues
  cases cue : p.cue? with
  | none => simp [cue] at cues
  | some c => simp_all

/-- A cue that comes off the agenda and is given leads to the next phase. -/
theorem InCycle.answer (h : s.InCycle seen p) (due : s.agenda.popDue? target = some (task, agenda)) :
    ∃ q, ({ s with agenda }.moves task.answer).InCycle seen q := by
  cases task with
  | narrate scene => exact ⟨p, h.strides (strides_of_popDue? due rfl)⟩
  | reveal =>
    obtain ⟨cue, bare⟩ := h.cue_eq due rfl
    cases p <;> cases cue
    exact ⟨.pausing, h.advance bare (·.reveal agenda.now) (Narrator.advances_reveal h.phase _)⟩
  | resume =>
    obtain ⟨cue, bare⟩ := h.cue_eq due rfl
    cases p <;> cases cue
    obtain ⟨q, a⟩ := Narrator.advances_resume h.phase
    exact ⟨q, h.advance bare (·.heed .resume) a⟩

/-- One move that keeps to the protocol. -/
theorem InCycle.attend (h : s.InCycle seen p) {a : Move} (fair : a.isFair) :
    ∃ q, (s.moves (s.attend a)).InCycle (seen ++ s.taken (s.attend a)) q := by
  by_cases pops : ∃ target, a = .pop target
  · obtain ⟨target, rfl⟩ := pops
    rw [taken_attend_pop, List.append_nil]
    cases due : s.agenda.popDue? target with
    | none =>
      rw [moves_attend_pop_of_none due]
      exact ⟨p, h⟩
    | some first =>
      rw [moves_attend_pop due]
      exact h.answer due
  · have other : ∀ target, a ≠ .pop target := not_exists.1 pops
    rw [attend_of_ne_pop other, taken_cons, taken_nil, List.append_nil]
    exact lasting_inCycle.move ⟨p, h⟩ fair other

/-- Any moves that keep to the protocol. -/
theorem InCycle.attended (h : s.InCycle seen p) {ms : List Move} (fair : ∀ a ∈ ms, a.isFair) :
    ∃ q, (s.moves (s.attended ms)).InCycle (seen ++ s.taken (s.attended ms)) q := by
  induction ms generalizing s seen p with
  | nil => exact ⟨p, by simpa [Stage.attended] using h⟩
  | cons a ms ih =>
    obtain ⟨q, next⟩ := h.attend (fair a (by simp))
    rw [Stage.attended, moves_append, taken_append, ← List.append_assoc]
    exact ih next fun b hb => fair b (by simp [hb])

/-- A task that comes off the agenda is one less to come, and every line that is still to be said counts
for two, one of which is planned while it is typed. -/
theorem InCycle.left_answer (h : s.InCycle seen p)
    (due : s.agenda.popDue? target = some (task, agenda)) :
    let t := { s with agenda }.moves task.answer
    t.agenda.size + 2 * t.hearing.narrator.queue.length + s.hearing.narrator.typing.toNat + 1 =
      s.agenda.size + 2 * s.hearing.narrator.queue.length + t.hearing.narrator.typing.toNat := by
  have size : s.agenda.size = agenda.size + 1 := by
    obtain ⟨time, pending, -⟩ := Agenda.popDue?_eq_some_iff.1 due
    simp [Agenda.size, pending]
  cases task with
  | narrate scene =>
    simp only [Task.answer, moves_nil]
    omega
  | reveal =>
    obtain ⟨cue, -⟩ := h.cue_eq due rfl
    cases p <;> cases cue
    have left := Narrator.left_reveal h.phase agenda.now
    have after := (Narrator.advances_reveal h.phase agenda.now).phase.2
    simp only [Task.answer, moves_cons, moves_nil, move, Stage.reveal, onNarrator, emit,
      Agenda.size_scheduleAll, after, h.phase.2.1, Bool.toNat_true, Bool.toNat_false]
    omega
  | resume =>
    obtain ⟨cue, -⟩ := h.cue_eq due rfl
    cases p <;> cases cue
    obtain ⟨queue, timers⟩ := Narrator.left_resume h.phase
    simp only [Task.answer, moves_cons, moves_nil, move, Stage.resume, onNarrator, emit,
      Agenda.size_scheduleAll, queue, timers, h.phase.2, Bool.toNat_false]
    omega

/-- By a cue that it is given, the narrator can only say what is in front of its queue. -/
theorem narrated_append_queue_answer (s : Stage) (task : Task) :
    let n := (s.moves task.answer).hearing.narrator
    narrated n.history.toList ++ n.queue =
      narrated s.hearing.narrator.history.toList ++ s.hearing.narrator.queue := by
  let n := s.hearing.narrator
  have heeded (c : Narrator.Cue) (bare : c.lines = []) :
      narrated (n.heed c).1.history.toList ++ (n.heed c).1.queue =
        narrated n.history.toList ++ n.queue := by
    simpa [bare, Narrator.spoken] using n.narrated_append_queue_heedAll [c]
  cases task with
  | narrate scene => rfl
  | reveal => exact heeded (.reveal s.agenda.now) rfl
  | resume => exact heeded .resume rfl

end Protocol

theorem InCycle.idle_of_pending_eq_nil (h : s.InCycle seen p) (pending : s.agenda.pending = []) :
    s.hearing.narrator.isIdle ∧ s.hearing.narrator.queue = [] := by
  have cues := h.cues
  rw [Agenda.cues, pending] at cues
  cases p with
  | silent =>
    obtain ⟨free, -, empty⟩ := h.phase
    simp [Narrator.isIdle, free, empty]
  | typing | pausing => cases cues

/-- When everything that is planned has come off the agenda, every line has been said. -/
theorem InCycle.idle_of_pops (h : s.InCycle seen p) {k : Nat}
    (enough : s.agenda.size + 2 * s.hearing.narrator.queue.length ≤
      k + s.hearing.narrator.typing.toNat) :
    let t := s.moves (s.attended (.replicate k (.pop .last)))
    t.agenda.pending = [] ∧ t.hearing.narrator.isIdle ∧
      narrated t.hearing.narrator.history.toList =
        narrated s.hearing.narrator.history.toList ++ s.hearing.narrator.queue := by
  induction k generalizing s p with
  | zero =>
    have typing := Narrator.typing_le_length h.phase
    have pending : s.agenda.pending = [] := by
      rw [← List.length_eq_zero_iff]
      change s.agenda.size = 0
      omega
    obtain ⟨idle, empty⟩ := h.idle_of_pending_eq_nil pending
    exact ⟨pending, idle, by rw [empty, List.append_nil]; rfl⟩
  | succ k ih =>
    simp only [List.replicate_succ, Stage.attended, moves_append]
    by_cases pending : s.agenda.pending = []
    · -- Nothing comes off any more.
      obtain ⟨-, empty⟩ := h.idle_of_pending_eq_nil pending
      rw [moves_attend_pop_of_none (Agenda.popDue?_of_nil pending .last)]
      exact ih h (by simp [Agenda.size, pending, empty])
    · obtain ⟨task, agenda, due⟩ := Agenda.exists_popDue?_last pending
      obtain ⟨q, next⟩ := h.answer due
      have left := h.left_answer due
      have kept := narrated_append_queue_answer { s with agenda } task
      rw [moves_attend_pop due]
      obtain ⟨empty, idle, said⟩ := ih next (by dsimp only at left; omega)
      exact ⟨empty, idle, said.trans kept⟩

/-- From the beginning on, under whatever moves keep to the protocol: a cue is planned exactly while a
line is under way, and then it is the only one, to reveal the line while the narrator types it and to go
on after that. What is told of the narrator is the beginning of speeches, each of lines that are typed
and then revealed, up to the word that nothing is left. A line is there whenever one is to be revealed,
there is never anything to begin, lines that are queued are said before that word, and as the agenda runs
out the whole queue is said. -/
theorem cycle_of_attended (script : Script) (pacing : Pacing) (store : AnswerStore)
    (suspect : Option String) {ms : List Move} (fair : ∀ a ∈ ms, a.isFair) :
    let s₀ := opening script pacing store suspect
    let s := s₀.moves (s₀.attended ms)
    let n := s.hearing.narrator
    s.agenda.cues = (if n.busy then [if n.typing then .reveal else .resume] else []) ∧
    (n.typing → n.busy ∧ n.queue ≠ []) ∧
    (n.busy = false → n.queue = []) ∧
    (∃ rest, beats (s₀.told (s₀.attended ms)) ++ rest ∈ speech∗) ∧
    (∀ target agenda, s.agenda.popDue? target = some (.reveal, agenda) → n.queue ≠ []) ∧
    s.speak = s ∧
    (∀ lines later front back,
      s.told (.enqueue lines :: later) = s.events.toList ++ (front ++ .queueDrained :: back) →
        n.queue ++ Narrator.spoken lines <+: narrated (revealed front)) ∧
    (∀ k, s.agenda.size + 2 * n.queue.length ≤ k →
      let t := s.moves (s.attended (.replicate k (.pop .last)))
      t.hearing.narrator.isIdle ∧
        narrated t.hearing.narrator.history.toList = narrated n.history.toList ++ n.queue) := by
  intro s₀ s n
  have start : s₀.InCycle [] .silent := ⟨⟨rfl, rfl, rfl⟩, rfl, Phase.nil_mem_trace⟩
  obtain ⟨p, h⟩ := start.attended fair
  change s.InCycle _ p at h
  refine ⟨?_, ?_, ?_, Phase.exists_append_mem h.told, ?_, h.speak_eq,
    fun _ _ _ _ => spoken_of_told_enqueue, ?_⟩
  · rw [h.cues]
    cases p with
    | silent => simp [n, Phase.cue?, h.phase.1]
    | typing | pausing => simp [n, Phase.cue?, h.phase.1, h.phase.2]
  · intro typing
    cases p with
    | typing => exact ⟨h.phase.1, h.phase.2.2⟩
    | silent => exact absurd typing (by simp [n, h.phase.2.1])
    | pausing => exact absurd typing (by simp [n, h.phase.2])
  · intro free
    cases p with
    | silent => exact h.phase.2.2
    | typing | pausing => exact absurd h.phase.1 (by simpa using free)
  · intro target agenda due
    obtain ⟨cue, -⟩ := h.cue_eq due rfl
    cases p <;> cases cue
    exact h.phase.2.2
  · intro k enough
    exact (h.idle_of_pops (enough.trans (Nat.le_add_right k _))).2

end Stage

namespace LooseEnd

/-- The narrator is asked to speak at the wrong times, and given a line while it pauses. -/
def interjection : List Move :=
  [.start, .speak, .enqueue ["Well?", " "], .speak, .pop 0, .pop 0, .speak, .respond "Who?" 7,
    .enqueue ["Is she guilty?"], .speak]

/-- The pause is still the only cue planned. The line is said before the narrator says that nothing is
left, and all lines have been said when the agenda has run out. -/
theorem cycle_of_interjection :
    let s₀ := Stage.opening script .instant .reference none
    let s := s₀.moves (s₀.attended interjection)
    s.agenda.cues = [.resume] ∧ s.hearing.narrator.queue = ["Is she guilty?"] ∧
    (∀ later front back,
      s.told (.enqueue [] :: later) = s.events.toList ++ (front ++ .queueDrained :: back) →
        ["Is she guilty?"] <+: narrated (revealed front)) ∧
    let t := s.moves (s.attended (.replicate 3 (.pop .last)))
    t.hearing.narrator.isIdle ∧
      narrated t.hearing.narrator.history.toList = ["Well?", "Is she guilty?"] := by
  have fair : ∀ a ∈ interjection, a.isFair := by decide
  have cycle := Stage.cycle_of_attended script .instant .reference none fair
  have state : let s₀ := Stage.opening script .instant .reference none
      let n := (s₀.moves (s₀.attended interjection)).hearing.narrator
      n.busy = true ∧ n.typing = false ∧ n.queue = ["Is she guilty?"] ∧
        (s₀.moves (s₀.attended interjection)).agenda.size = 1 ∧
        narrated n.history.toList = ["Well?"] := by decide +kernel
  dsimp only at cycle state ⊢
  generalize (Stage.opening script .instant .reference none).moves _ = s at cycle state ⊢
  obtain ⟨busy, typing, queue, size, said⟩ := state
  obtain ⟨cues, -, -, -, -, -, heard, drains⟩ := cycle
  obtain ⟨idle, all⟩ := drains 3 (by rw [size, queue]; decide)
  refine ⟨?_, queue, ?_, idle, ?_⟩
  · rw [cues, busy, typing]
    rfl
  · intro later front back told
    have kept := heard [] later front back told
    rwa [queue] at kept
  · rw [all, said, queue]
    rfl

end LooseEnd

end Inquest
