import Inquest.Proofs.Dialogue.Record
import Inquest.Proofs.Dialogue.Strides
/-!
# Lines that are heard out

A narrator says that nothing is left only when that is so. Hence a line in its queue is said before it
next says so, whatever is done on the stage in the meantime.
-/

namespace Inquest

namespace Narrator

variable {n m : Narrator} {c : Cue} {e : Effects} {said : Option Line}

/-- What the narrator says by a cue is told. -/
theorem Heeds.narrated_revealed (h : n.Heeds c m e said) :
    narrated (revealed e.events) = narrated said.toList := by
  cases h with
  | begin | wait | drain => rfl
  | hush => cases n.typing <;> rfl
  | reveal queue line => cases n.typing <;> rfl
  | respond line => simp [narrated, revealed, line]

/-- A narrator says that nothing is left only when its queue is empty. -/
theorem Heeds.queue_eq_nil_of_drained (h : n.Heeds c m e said) (mem : .queueDrained ∈ e.events) :
    n.queue = [] := by
  cases h with
  | hush empty | drain empty => exact empty
  | begin | wait | respond => simp at mem
  | reveal => cases n.typing <;> simp at mem

/-- Nor does it say so when it is brought lines. -/
theorem Heeds.drained_notMem {lines : List String} (h : n.Heeds (.enqueue lines) m e said) :
    .queueDrained ∉ e.events := by
  cases h <;> simp

end Narrator

namespace Stage

variable {s t : Stage} {seen old : List Event} {q : List String}

/-- Of the lines that were in the queue when the old events had been told, those that have not been said
since are still in front of the queue, and at no time has the narrator said that nothing was left while
there were any. -/
structure HearsOut (s : Stage) (q : List String) (old seen : List Event) (news : List Event) : Prop where
  told : seen ++ s.events.toList = old ++ news
  kept : q <+: narrated (revealed news) ++ s.hearing.narrator.queue
  before : ∀ front back, news = front ++ .queueDrained :: back → q <+: narrated (revealed front)

/-- A step that says what is in front of the queue, if it says anything, and that nothing is left only if
that is so. -/
theorem HearsOut.tell {news es : List Event} {more : List String} (h : s.HearsOut q old seen news)
    (events : t.events.toList = s.events.toList ++ es)
    (said : narrated (revealed es) ++ t.hearing.narrator.queue = s.hearing.narrator.queue ++ more)
    (last : .queueDrained ∈ es → s.hearing.narrator.queue = []) :
    t.HearsOut q old seen (news ++ es) := by
  refine ⟨?_, ?_, ?_⟩
  · rw [events, ← List.append_assoc, h.told, List.append_assoc]
  · rw [revealed_append, narrated_append, List.append_assoc, said, ← List.append_assoc]
    exact h.kept.trans (List.prefix_append _ more)
  · intro front back split
    obtain ⟨between, rfl, later⟩ | ⟨between, rfl, later⟩ := List.append_eq_append_iff.1 split
    · -- The word is said by this step.
      have empty := last (by rw [later]; simp)
      have kept := h.kept
      rw [empty, List.append_nil] at kept
      rw [revealed_append, narrated_append]
      exact kept.trans (List.prefix_append _ _)
    · -- The word was said before, or it is the first of this step.
      cases between with
      | nil =>
        have empty := last (by rw [← List.nil_append es, ← later]; simp)
        have kept := h.kept
        rwa [empty, List.append_nil, List.append_nil] at kept
      | cons e between =>
        obtain ⟨rfl, -⟩ := List.cons.inj later
        exact h.before front between rfl

/-- A step without a word of the narrator. -/
theorem HearsOut.quiet {news es : List Event} (h : s.HearsOut q old seen news)
    (events : t.events.toList = s.events.toList ++ es) (hush : narrated (revealed es) = [])
    (going : .queueDrained ∉ es) (queue : t.hearing.narrator.queue = s.hearing.narrator.queue) :
    t.HearsOut q old seen (news ++ es) := by
  have said : narrated (revealed es) ++ t.hearing.narrator.queue =
      s.hearing.narrator.queue ++ [] := by simp [hush, queue]
  exact h.tell events said fun drained => absurd drained going

theorem enduring_hearsOut : Enduring fun seen s => ∃ news, s.HearsOut q old seen news where
  strides := by
    rintro seen s t ⟨news, h⟩ a
    obtain ⟨es, events, mute⟩ := a.events
    have hush : revealed es = [] := filterMap_of_isMute (fun _ => rfl) (fun _ => rfl) rfl mute
    have going : .queueDrained ∉ es := fun drained => nomatch mute _ drained
    exact ⟨_, h.quiet events (by rw [hush]; rfl) going (by rw [a.narrator])⟩
  cue := by
    rintro seen s c ⟨news, h⟩
    have heeds := s.hearing.narrator.heeds_heed c
    have said := heeds.narrated_append_queue
    rw [← heeds.narrated_revealed] at said
    exact ⟨_, h.tell (by simp [onNarrator]) said heeds.queue_eq_nil_of_drained⟩
  accept := by
    rintro seen s r ⟨news, h⟩
    refine ⟨_, h.quiet (events_accept r) ?_ ?_ (by rw [narrator_accept]; rfl)⟩
    · cases s.hearing.ruling <;> cases r.verdict <;> rfl
    · cases s.hearing.ruling <;> cases r.verdict <;> simp
  agenda := fun _ ⟨news, h⟩ => ⟨news, h.told, h.kept, h.before⟩
  takeEvents := fun ⟨news, h⟩ => ⟨news, by simpa using h.told, h.kept, h.before⟩

/-- Lines that are queued are said, after those that were in the queue before them, before the narrator
next says that nothing is left, whatever else is done on the stage. -/
theorem spoken_of_told_enqueue {lines : List String} {later : List Move} {front back : List Event}
    (h : s.told (.enqueue lines :: later) = s.events.toList ++ (front ++ .queueDrained :: back)) :
    s.hearing.narrator.queue ++ Narrator.spoken lines <+: narrated (revealed front) := by
  let n := s.hearing.narrator
  have heeds : n.Heeds _ (n.enqueue lines).1 (n.enqueue lines).2.1 none :=
    n.heeds_heed (.enqueue lines)
  have queue : narrated (revealed (n.enqueue lines).2.1.events) ++ (n.enqueue lines).1.queue =
      n.queue ++ Narrator.spoken lines := by
    rw [heeds.narrated_revealed]
    exact heeds.narrated_append_queue
  have start : (s.enqueue lines).1.HearsOut (n.queue ++ Narrator.spoken lines) s.events.toList []
      (n.enqueue lines).2.1.events := by
    refine ⟨by simp [enqueue, onNarrator, n], queue ▸ List.prefix_rfl, fun front back split => ?_⟩
    exact absurd (by rw [split]; simp) heeds.drained_notMem
  obtain ⟨news, told, -, before⟩ := enduring_hearsOut.moves ⟨_, start⟩ later
  have split : news = front ++ .queueDrained :: back := List.append_cancel_left (told.symm.trans h)
  exact before front back split

end Stage

end Inquest
