import Inquest.Proofs.Conversation.Mode
import Inquest.Proofs.Dialogue.Record
/-!
# The record of a conversation

The history is what the events have told, line for line, whether the host has taken them or not. Its
lines are numbered from 1 and stamped with times that do not decrease; it only grows, and the clock
only moves forward.
-/

namespace Inquest

namespace Conversation

/-- A conversation whose history is in order, and that has gone on from a history and a time. -/
structure Recorded (earlier : List Line) (since : Millis) (t : Transcript) (c : Conversation) :
    Prop extends Orderly c where
  told : revealed (t.told c) = c.history.toList
  numbers : ∀ i line, c.history.toList[i]? = some line → line.id = i + 1
  times : c.history.toList.Pairwise (·.createdAt ≤ ·.createdAt)
  past : ∀ line ∈ c.history.toList, line.createdAt ≤ c.now
  grown : earlier <+: c.history.toList
  later : since ≤ c.now

variable {earlier : List Line} {since : Millis} {t t' : Transcript} {c c' : Conversation}
  {es : List Event} {said : Option Line}

/-- A move that adds to the record keeps it in order. -/
theorem Recorded.adds (h : c.Recorded earlier since t) (o : c'.Orderly)
    (a : c.stage.Adds c'.stage es said) (taken : t'.taken = t.taken) :
    c'.Recorded earlier since t' := by
  have history : c'.history.toList = c.history.toList ++ said.toList := a.history
  have now : c.now ≤ c'.now := a.now
  refine ⟨o, ?_, ?_, ?_, ?_, ?_, Millis.le_trans h.later now⟩
  · rw [Transcript.told_of_events a.events taken, revealed_append, h.told, a.revealed, history]
  · intro i line hl
    rw [history] at hl
    by_cases old : i < c.history.toList.length
    · rw [List.getElem?_append_left old] at hl
      exact h.numbers i line hl
    · -- Beyond the old history there is at most the line that was said.
      rw [List.getElem?_append_right (Nat.le_of_not_lt old)] at hl
      cases said with
      | none => simp at hl
      | some new =>
        have last : i - c.history.toList.length = 0 ∧ new = line := by
          simpa [List.getElem?_singleton] using hl
        have number : new.id = c.history.toList.length + 1 :=
          (a.number new rfl).trans c.stage.hearing.narrator.numbered
        rw [← last.2, number]
        omega
  · rw [history, List.pairwise_append]
    refine ⟨h.times, ?_, ?_⟩
    · cases said <;> simp
    · intro line hl new hn
      have stamp : new.createdAt = c'.now := a.time new (Option.mem_toList.1 hn)
      rw [stamp]
      exact Millis.le_trans (h.past line hl) now
  · intro line hl
    rw [history] at hl
    rcases List.mem_append.1 hl with old | new
    · exact Millis.le_trans (h.past line old) now
    · have stamp : line.createdAt = c'.now := a.time line (Option.mem_toList.1 new)
      rw [stamp]
      exact Millis.le_refl _
  · rw [history]
    exact h.grown.trans (List.prefix_append _ _)

/-- What leaves the history alone and does not turn the clock back keeps the record. -/
theorem Recorded.aside (h : c.Recorded earlier since t) (a : c.Aside c')
    (told : t'.told c' = t.told c) (history : c'.history = c.history) (now : c.now ≤ c'.now) :
    c'.Recorded earlier since t' := by
  refine ⟨h.toOrderly.aside a, ?_, ?_, ?_, ?_, ?_, Millis.le_trans h.later now⟩
  · rw [told, history]
    exact h.told
  · rw [history]
    exact h.numbers
  · rw [history]
    exact h.times
  · intro line hl
    rw [history] at hl
    exact Millis.le_trans (h.past line hl) now
  · rw [history]
    exact h.grown

/-- No move of a conversation brings its record out of order. -/
theorem kept_recorded : Kept (fun t c => c.Recorded earlier since t) where
  start {t c} h := by
    obtain ⟨m, hm⟩ := h.mode
    by_cases fresh : m = .unstarted
    · subst fresh
      obtain ⟨sc, -, eq, -⟩ := start_of_unstarted h.sound hm
      have orderly : c.start.1.Orderly := kept_orderly.start (t := t) h.toOrderly
      rw [eq] at orderly ⊢
      exact h.adds orderly (c.stage.adds_entering sc) rfl
    · rw [start_of_ne hm fresh]
      exact h
  task {t c _ c'} h hs := by
    obtain ⟨m, hm⟩ := h.mode
    obtain ⟨m', turn, -⟩ := turn_of_step? h.sound hm hs
    obtain ⟨es, said, adds, -⟩ := turn.adds
    exact h.adds (kept_orderly.task (t := t) h.toOrderly hs) adds rfl
  settle {t c target} h _ := by
    apply h.aside (aside_settle c target) rfl rfl
    show c.now ≤ max c.now target
    rw [Millis.le_def, Millis.val_max]
    omega
  chosen {t c value} h ok := by
    obtain ⟨sc, number, o, sc', -, -, -, eq, -⟩ := choose_of_ok h.toOrderly ok
    obtain ⟨es, adds, -⟩ := c.stage.adds_accept (sc.reply number o) sc'
    have orderly : (c.choose value).1.Orderly := kept_orderly.chosen (t := t) h.toOrderly ok
    rw [eq] at orderly ⊢
    exact h.adds orderly adds rfl
  refused h hv := by
    rw [choose_of_error h.toOrderly hv]
    exact h
  annotate claim category h := h.aside (aside_annotate _ claim category) rfl rfl (Millis.le_refl _)
  finishLoad result h := h.aside (aside_finishLoad _ result) rfl rfl (Millis.le_refl _)
  takeEvents h :=
    h.aside (aside_takeEvents _) (Transcript.told_takeEvents _ _) rfl (Millis.le_refl _)

theorem recorded_of_build {s : Setup} (h : s.build = .ok c) : c.Recorded [] 0 {} := by
  have orderly := orderly_of_build h
  obtain ⟨script, pacing, -, rfl⟩ := Setup.build_eq_ok h
  exact ⟨orderly, rfl, by simp [history, Stage.opening, Hearing.opening], .nil, nofun,
    List.nil_prefix, Nat.le_refl _⟩

/-- Whatever its host does, the history of a conversation that was set up is what its events have
told, in order. Its lines are numbered from 1, and their times do not decrease and are not ahead of
the clock. Later on the history has only grown, and the clock has not gone back. -/
theorem record_of_play {s : Setup} {c₀ : Conversation} {limit : Nat} {calls : List Call} {log : Log}
    (hb : s.build = .ok c₀) (h : c₀.play? limit calls = some (c, log)) :
    revealed ((Transcript.ofLog log).told c) = c.history.toList ∧
    (∀ i line, c.history.toList[i]? = some line → line.id = i + 1) ∧
    c.history.toList.Pairwise (·.createdAt ≤ ·.createdAt) ∧
    (∀ line ∈ c.history.toList, line.createdAt ≤ c.now) ∧
    ∀ limit' later c' log', c.play? limit' later = some (c', log') →
      c.history.toList <+: c'.history.toList ∧ c.now ≤ c'.now := by
  have recorded : c.Recorded [] 0 (Transcript.ofLog log) :=
    kept_recorded.play (recorded_of_build hb) h
  refine ⟨recorded.told, recorded.numbers, recorded.times, recorded.past, ?_⟩
  intro limit' later c' log' h'
  have since : c.Recorded c.history.toList c.now (Transcript.ofLog log) :=
    { recorded with grown := List.prefix_refl _, later := Millis.le_refl _ }
  have after := kept_recorded.play since h'
  exact ⟨after.grown, after.later⟩

end Conversation

namespace Gated

/-- The record of the case with its events taken before the verdict is given, and then at its end.
-/
theorem record_of_guilty :
    ∃ c log c' log',
      (setupWith .standard .reference).build = .ok (openingWith .standard .reference) ∧
      (openingWith .standard .reference).play? 10
        [.start, .runUntilIdle, .takeEvents, .advance 700, .choose "guilty"] = some (c, log) ∧
      c.play? 10 [.takeEvents, .runUntilIdle] = some (c', log') ∧
      c.history.size = 2 ∧ c'.history.size = 3 ∧
      revealed ((Transcript.ofLog log).told c) = c.history.toList ∧
      c.history.toList <+: c'.history.toList ∧ c.now ≤ c'.now := by
  obtain ⟨c, log, played, size⟩ : ∃ c log, (openingWith .standard .reference).play? 10
      [.start, .runUntilIdle, .takeEvents, .advance 700, .choose "guilty"] = some (c, log) ∧
      c.history.size = 2 := ⟨_, _, rfl, rfl⟩
  obtain ⟨c', log', goes_on, size'⟩ : ∃ c' log',
      c.play? 10 [.takeEvents, .runUntilIdle] = some (c', log') ∧ c'.history.size = 3 := by
    cases played
    exact ⟨_, _, rfl, rfl⟩
  obtain ⟨told, -, -, -, later⟩ :=
    Conversation.record_of_play (build_setupWith .standard .reference) played
  obtain ⟨grown, moved⟩ := later _ _ _ _ goes_on
  exact ⟨c, log, c', log', build_setupWith _ _, played, goes_on, size, size', told, grown, moved⟩

end Gated

end Inquest
