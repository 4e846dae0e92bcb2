import Inquest.Proofs.Dialogue.Reply
/-!
# The record of a stage

A line that is said joins the history and is told by an event, in one step. It has the number that the
counter shows before the step, and the time on the clock when the step is done.
-/

namespace Inquest

def Event.line? : Event → Option Line
  | lineRevealed line => some line
  | _ => none

def revealed (es : List Event) : List Line := es.filterMap Event.line?

@[simp] theorem revealed_append (es fs : List Event) :
    revealed (es ++ fs) = revealed es ++ revealed fs := by
  simp [revealed]

/-- The events enter no scene but that of the mode. -/
def Mode.Announces (m : Mode) (es : List Event) : Prop :=
  ∀ name, .sceneEntered name ∈ es → m.scene?.map (·.name) = some name

theorem Mode.Announces.append {m : Mode} {es fs : List Event} (h : m.Announces es)
    (h' : m.Announces fs) : m.Announces (es ++ fs) := by
  intro name mem
  exact (List.mem_append.1 mem).elim (h name) (h' name)

namespace Stage

/-- The second stage comes of the first by telling the events, of which at most one reveals a line.
-/
structure Adds (s t : Stage) (es : List Event) (said : Option Line) : Prop where
  events : t.events.toList = s.events.toList ++ es
  revealed : revealed es = said.toList
  history : t.hearing.narrator.history.toList = s.hearing.narrator.history.toList ++ said.toList
  number : ∀ line, said = some line → line.id = s.hearing.narrator.nextLine
  time : ∀ line, said = some line → line.createdAt = t.agenda.now
  now : s.agenda.now ≤ t.agenda.now

variable {s t u : Stage} {m m' : Mode} {sc : Scene}

/-- A step that says nothing. -/
theorem Adds.silent {es : List Event} (events : t.events.toList = s.events.toList ++ es)
    (hush : Inquest.revealed es = [])
    (history : t.hearing.narrator.history = s.hearing.narrator.history)
    (now : s.agenda.now ≤ t.agenda.now) : s.Adds t es none where
  events := events
  revealed := hush
  history := by simp [history]
  number := nofun
  time := nofun
  now := now

/-- After a step that says nothing, the next line has the number that it would have had: the counter
goes on with the history only. -/
theorem Adds.after_silence {es fs : List Event} {said : Option Line} (h : s.Adds t es none)
    (h' : t.Adds u fs said) : s.Adds u (es ++ fs) said where
  events := by rw [h'.events, h.events, List.append_assoc]
  revealed := by rw [revealed_append, h.revealed, h'.revealed]; rfl
  history := by rw [h'.history, h.history]; simp
  number := by
    intro line hl
    have same : t.hearing.narrator.nextLine = s.hearing.narrator.nextLine := by
      have lengths := congrArg List.length h.history
      rw [t.hearing.narrator.numbered, s.hearing.narrator.numbered]
      simpa using lengths
    rw [h'.number line hl, same]
  time := h'.time
  now := Millis.le_trans h.now h'.now

theorem le_now_wake (s : Stage) (due : Millis) : s.agenda.now ≤ (s.wake due).agenda.now := by
  rw [now_wake, Millis.le_def, Millis.val_max]
  omega

/-- Entering a scene says nothing. -/
theorem adds_entering (s : Stage) (sc : Scene) :
    s.Adds (s.entering sc) [.sceneEntered sc.name] none :=
  .silent toList_events_entering rfl rfl (Millis.le_refl _)

theorem Hushed.adds (h : s.Hushed m sc t) : ∃ es, s.Adds t es none ∧ m'.Announces es := by
  cases h with
  | @silent _ due =>
    exact ⟨[], .silent (by simp) rfl rfl (s.le_now_wake due), by simp [Mode.Announces]⟩
  | @drained _ due =>
    exact ⟨[.queueDrained], .silent (by simp) rfl rfl (s.le_now_wake due),
      by simp [Mode.Announces]⟩

theorem Leaves.adds (h : s.Leaves sc m t) : ∃ es, s.Adds t es none ∧ m.Announces es := by
  cases h with
  | @proceed next sc' => exact ⟨_, s.adds_entering sc', by simp [Mode.Announces, Mode.scene?]⟩
  | ask =>
    exact ⟨[.decisionPresented (Mode.decision sc s.hearing.nextDecision)],
      .silent (by simp) rfl rfl (Millis.le_refl _), by simp [Mode.Announces]⟩
  | close =>
    exact ⟨[.finished], .silent (by simp) rfl rfl (Millis.le_refl _), by simp [Mode.Announces]⟩

/-- A turn says the line that it reveals, if it reveals one, and enters the scene that it leads to,
if it enters one. -/
theorem Turn.adds (h : s.Turn m m' t) : ∃ es said, s.Adds t es said ∧ m'.Announces es := by
  cases h with
  | @begin sc due =>
    exact ⟨[.typingStarted], none, .silent (by simp) rfl rfl (s.le_now_wake due),
      by simp [Mode.Announces]⟩
  | @reveal sc due line =>
    refine ⟨[.typingStopped, .lineRevealed ((s.wake due).nextLine line)],
      some ((s.wake due).nextLine line), ?_, by simp [Mode.Announces]⟩
    constructor
    · simp
    · rfl
    · simp
    · rintro _ ⟨⟩
      rfl
    · rintro _ ⟨⟩
      rfl
    · exact s.le_now_wake due
  | @goOn sc due =>
    exact ⟨[.typingStarted], none, .silent (by simp) rfl rfl (s.le_now_wake due),
      by simp [Mode.Announces]⟩
  | leave hushed leaves =>
    obtain ⟨front, quiet, before⟩ := hushed.adds
    obtain ⟨back, exit, after⟩ := leaves.adds
    exact ⟨front ++ back, none, quiet.after_silence exit, before.append after⟩

/-- A reply that stands, with the scene entered after it, says what the player says. -/
theorem adds_accept (s : Stage) (r : Reply) (sc : Scene) :
    ∃ es, s.Adds ((s.accept r).entering sc) es (some (s.replyLine r)) ∧
      ∀ due, (Mode.leadIn sc due).Announces es := by
  have quiet : revealed (r.verdict.toList.map .verdictReported) = revealed [] := by
    cases r.verdict <;> rfl
  have now : (s.accept r).agenda.now = s.agenda.now := by rw [agenda_accept]
  have history : (s.accept r).hearing.narrator.history.toList =
      s.hearing.narrator.history.toList ++ [s.replyLine r] := by
    rw [narrator_accept]
    simp [answered]
  refine ⟨_, ⟨events_entering_accept r sc, ?_, history, ?_, ?_, ?_⟩, ?_⟩
  · rw [revealed_append, revealed_append, apply_ite revealed, quiet, ite_self]
    rfl
  · rintro _ ⟨⟩
    rfl
  · rintro _ ⟨⟩
    exact now.symm
  · rw [← now]
    exact Millis.le_refl _
  · intro due
    apply Mode.Announces.append
    · intro name mem
      cases r.verdict <;> split at mem <;> simp at mem
    · simp [Mode.Announces, Mode.scene?]

end Stage

end Inquest
