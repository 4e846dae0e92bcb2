import Inquest.Proofs.Dialogue.Refusal
import Inquest.Proofs.Dialogue.Strides
/-!
# The delivery of the verdict

A host that wires the parts of a stage itself may ask for the verdict as often as it likes, put
decisions on the screen by hand and record verdicts on its own. Still it is handed one verdict at
most, and none after one is on record.
-/

namespace Inquest

theorem verdicts_eq_nil {es : List Event} (h : ∀ e ∈ es, e.verdict? = none) : verdicts es = [] :=
  List.filterMap_eq_nil_iff.2 h

theorem Event.verdict?_of_isSpeech {e : Event} (h : e.isSpeech) : e.verdict? = none := by
  cases e with
  | verdictReported => cases h
  | _ => rfl

namespace Stage

variable {s t : Stage} {seen : List Event} {vs : List Verdict}

/-- The verdicts told are those handed over. There is one at most, and then a ruling is on record. -/
structure Delivered (s : Stage) (seen : List Event) : Prop where
  told : verdicts (seen ++ s.events.toList) = s.reported
  once : s.reported.length ≤ 1
  ruled : s.reported ≠ [] → s.hearing.ruling.isSome

/-- A ruling is on record, and the verdicts handed over are the given ones. -/
structure Settled (s : Stage) (vs : List Verdict) : Prop where
  ruled : s.hearing.ruling.isSome
  reported : s.reported = vs

theorem Strides.verdicts_eq (h : s.Strides t) :
    verdicts t.events.toList = verdicts s.events.toList := by
  obtain ⟨es, events, mute⟩ := h.events
  have quiet : verdicts es = [] := filterMap_of_isMute (fun _ => rfl) (fun _ => rfl) rfl mute
  rw [events, verdicts_append, quiet, List.append_nil]

/-- The narrator tells of no verdict. -/
theorem verdicts_cue (s : Stage) (c : Narrator.Cue) :
    verdicts (s.onNarrator (·.heed c)).events.toList = verdicts s.events.toList := by
  have quiet : verdicts (s.hearing.narrator.heed c).2.events = [] :=
    verdicts_eq_nil fun e he =>
      Event.verdict?_of_isSpeech ((s.hearing.narrator.heeds_heed c).isSpeech he)
  simp [onNarrator, quiet]

/-- Before a ruling is on record, no verdict has been handed over. -/
theorem Delivered.reported_eq_nil (h : s.Delivered seen) (unruled : s.hearing.ruling = none) :
    s.reported = [] := by
  by_contra some
  simpa [unruled] using h.ruled some

/-- No move tells of a verdict that it does not hand over, or hands over a second. -/
theorem enduring_delivered : Enduring (fun seen s => s.Delivered seen) where
  strides h a := by
    refine ⟨?_, a.reported ▸ h.once, fun some => a.ruling (h.ruled (a.reported ▸ some))⟩
    rw [verdicts_append, a.verdicts_eq, ← verdicts_append, a.reported]
    exact h.told
  cue c h := by
    refine ⟨?_, h.once, h.ruled⟩
    rw [verdicts_append, verdicts_cue, ← verdicts_append]
    exact h.told
  accept {seen s} r h := by
    have told : verdicts (seen ++ (s.accept r).events.toList) = (s.accept r).reported := by
      rw [verdicts_append, verdicts_accept, ← List.append_assoc, ← verdicts_append, h.told,
        reported_accept]
    refine ⟨told, ?_, ?_⟩ <;> rw [reported_accept]
    · cases ruled : s.hearing.ruling with
      | some ruling => simpa using h.once
      | none => cases r.verdict <;> simp [h.reported_eq_nil ruled]
    · intro some
      rw [ruling_accept]
      cases ruled : s.hearing.ruling with
      | some ruling => rfl
      | none =>
        cases given : r.verdict with
        | none => simp [h.reported_eq_nil ruled, given] at some
        | some verdict => rfl
  agenda _ h := ⟨h.told, h.once, h.ruled⟩
  takeEvents h := ⟨by simpa using h.told, h.once, h.ruled⟩

/-- Once a ruling is on record, no move takes it back or hands a verdict over. -/
theorem enduring_settled : Enduring (fun _ s => s.Settled vs) where
  strides h a := ⟨a.ruling h.ruled, a.reported.trans h.reported⟩
  cue _ h := ⟨h.ruled, h.reported⟩
  accept r h := by
    refine ⟨?_, ?_⟩
    · rw [ruling_accept, Option.isSome_or, h.ruled]
      rfl
    · rw [reported_accept, if_pos h.ruled, List.append_nil, h.reported]
  agenda _ h := ⟨h.ruled, h.reported⟩
  takeEvents h := ⟨h.ruled, h.reported⟩

theorem reported_narrate (s : Stage) (name : String) : (s.narrate name).reported = s.reported := by
  unfold narrate
  split
  · rfl
  · dsimp only
    split
    · exact (strides_leave _).reported
    · rfl

theorem reported_resolve (s : Stage) (value : String) :
    (s.resolve value).1.reported = s.reported ++ match s.reply? value with
      | .ok r => if s.hearing.ruling.isSome then [] else r.verdict.toList
      | .error _ => [] := by
  cases stands : s.reply? value with
  | error e =>
    rw [resolve_of_error stands]
    exact (List.append_nil _).symm
  | ok r =>
    have entered := (strides_enter (s.accept r) r.next).reported
    simp only [resolve, stands]
    rw [entered, reported_accept]

/-- A verdict is handed over exactly by a choice that stands and gives it while no ruling is on record.
-/
theorem reported_move_iff (s : Stage) (a : Move) (v : Verdict) :
    (s.move a).reported = s.reported ++ [v] ↔ s.hearing.ruling = none ∧
      ∃ value r, a = .resolve value ∧ s.reply? value = .ok r ∧ r.verdict = some v := by
  have still : (s.move a).reported = s.reported → (∀ value, a ≠ .resolve value) →
      ((s.move a).reported = s.reported ++ [v] ↔ s.hearing.ruling = none ∧
        ∃ value r, a = .resolve value ∧ s.reply? value = .ok r ∧ r.verdict = some v) := by
    intro same other
    refine iff_of_false (by simp [same]) ?_
    rintro ⟨-, value, -, choice, -⟩
    exact other value choice
  cases a with
  | resolve value =>
    rw [move, reported_resolve, List.append_cancel_left_eq]
    cases stands : s.reply? value with
    | error e => simp [stands]
    | ok r => cases s.hearing.ruling <;> simp [stands]
  | start => exact still (strides_enter s _).reported nofun
  | narrate name => exact still (s.reported_narrate name) nofun
  | leave => exact still s.strides_leave.reported nofun
  | _ => exact still rfl nofun

/-- Whatever a host does with the parts of a stage, with a script that need not be sound and from the
beginning on, it is handed one verdict at most, and the verdicts that the events tell of are those that
it is handed. A move hands over a verdict exactly if it is a choice that stands and gives the verdict
while none is on record. Once one is on record, however that came about, none is handed over any more.
-/
theorem delivery_of_moves (script : Script) (pacing : Pacing) (store : AnswerStore)
    (suspect : Option String) (ms : List Move) :
    let s₀ := opening script pacing store suspect
    let s := s₀.moves ms
    s.reported.length ≤ 1 ∧
    verdicts (s₀.told ms) = s.reported ∧
    (∀ a v, (s.move a).reported = s.reported ++ [v] ↔ s.hearing.verdict? = none ∧
      ∃ value r, a = .resolve value ∧ s.reply? value = .ok r ∧ r.verdict = some v) ∧
    (s.hearing.verdict?.isSome → ∀ later, (s.moves later).reported = s.reported) := by
  intro s₀ s
  have start : s₀.Delivered [] := ⟨rfl, Nat.zero_le 1, fun some => absurd rfl some⟩
  have delivered : s.Delivered (s₀.taken ms) := by simpa using enduring_delivered.moves start ms
  refine ⟨delivered.once, delivered.told, ?_, ?_⟩
  · intro a v
    rw [Hearing.verdict?, Option.map_eq_none_iff]
    exact s.reported_move_iff a v
  · intro given later
    rw [Hearing.verdict?, Option.isSome_map] at given
    have settled : (s.moves later).Settled s.reported :=
      @Enduring.moves _ [] s enduring_settled ⟨given, rfl⟩ later
    exact settled.reported

end Stage

namespace LooseEnd

/-- The verdict is given, and then asked for again by hand. -/
def secondThoughts : List Move :=
  [.start, .pop 0, .narrate "ask", .pop 0, .reveal, .pop 0, .resume, .leave, .resolve "guilty",
    .takeEvents, .offer "ask" [⟨"Not guilty", "not-guilty"⟩]]

/-- The other verdict is accepted, but the host has been handed the first and is handed no other. -/
theorem delivery_of_secondThoughts :
    let s₀ := Stage.opening script .instant .reference none
    let s := s₀.moves secondThoughts
    (s.resolve "not-guilty").2 = .ok () ∧ s.hearing.verdict? = some .guilty ∧
      verdicts (s₀.told secondThoughts) = [.guilty] ∧
      ∀ later, (s.moves later).reported = [.guilty] := by
  intro s₀ s
  have given : s.hearing.verdict? = some .guilty ∧ s.reported = [.guilty] ∧
      (s.resolve "not-guilty").2 = .ok () := by decide +kernel
  obtain ⟨-, told, -, none_later⟩ :=
    Stage.delivery_of_moves script .instant .reference none secondThoughts
  refine ⟨given.2.2, given.1, told.trans given.2.1, fun later => ?_⟩
  exact (none_later (by rw [given.1]; rfl) later).trans given.2.1

end LooseEnd

end Inquest
