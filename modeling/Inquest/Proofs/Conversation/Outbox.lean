import Inquest.Proofs.Conversation.Mode
import Inquest.Proofs.Dialogue.Outbox
/-!
# The outbox of a conversation

Until its host takes them, the events of a conversation wait. Whether earlier events still wait or were taken
makes no difference to any other call: what it answers and what it tells is the same.
-/

namespace Inquest.Conversation

def preceded (earlier : List Event) (c : Conversation) : Conversation :=
  { c with stage := c.stage.preceded earlier }

variable {earlier : List Event} {c : Conversation} {limit : Nat} {target : Millis}

@[simp] theorem preceded_nil : c.preceded [] = c := by
  simp [preceded]

@[simp] theorem preceded_preceded (before : List Event) :
    (c.preceded earlier).preceded before = c.preceded (before ++ earlier) := by
  simp [preceded]

theorem events_preceded :
    (c.preceded earlier).stage.events.toList = earlier ++ c.stage.events.toList :=
  Stage.toList_events_preceded

/-- Taking the events puts them into the host's hands: nothing of them is lost. -/
theorem preceded_takeEvents : c.takeEvents.1.preceded c.takeEvents.2.toList = c := by
  simp [preceded, Stage.preceded, takeEvents]

theorem start_preceded :
    (c.preceded earlier).start = (c.start.1.preceded earlier, c.start.2) := by
  unfold start
  have started : (c.preceded earlier).started = c.started := rfl
  rw [started]
  split
  · rfl
  · have entered : (c.preceded earlier).stage.start =
        (c.stage.start.1.preceded earlier, c.stage.start.2) := Stage.enter_preceded _
    simp only [entered]
    rfl

theorem step?_preceded :
    (c.preceded earlier).step? target = (c.step? target).map (·.preceded earlier) := by
  have planned : (c.preceded earlier).stage.agenda = c.stage.agenda := rfl
  unfold step?
  rw [planned]
  cases c.stage.agenda.popDue? target with
  | none => rfl
  | some due =>
    obtain ⟨task, agenda⟩ := due
    have ran : (Stage.preceded earlier { c.stage with agenda }).run task =
        (Stage.run { c.stage with agenda } task).preceded earlier := Stage.run_preceded task
    exact congrArg (fun stage => some { c with stage }) ran

/-- Any number of tasks run as they do without the events that wait. -/
theorem run_preceded (n : Nat) : (c.preceded earlier).run target n = (c.run target n).preceded earlier :=
  run_map (P := fun _ => True) (fun _ _ => trivial) (fun _ => step?_preceded) trivial n

theorem advanceTo?_preceded : (c.preceded earlier).advanceTo? limit target =
    (c.advanceTo? limit target).map (·.preceded earlier) := by
  simp only [advanceTo?, run_preceded]
  have due : ((c.run target limit).preceded earlier).nextDue? = (c.run target limit).nextDue? := rfl
  rw [due]
  split <;> rfl

theorem choose_preceded (value : String) : (c.preceded earlier).choose value =
    ((c.choose value).1.preceded earlier, (c.choose value).2) := by
  have resolved : (c.preceded earlier).stage.resolve value =
      ((c.stage.resolve value).1.preceded earlier, (c.stage.resolve value).2) :=
    Stage.resolve_preceded value
  simp only [choose, resolved]
  rfl

theorem click_preceded (claim : ClaimId) (highlighter : Option Category) :
    (c.preceded earlier).click claim highlighter =
      ((c.click claim highlighter).1.preceded earlier, (c.click claim highlighter).2) := by
  have revealed : (c.preceded earlier).revealed? claim = c.revealed? claim := rfl
  unfold click
  rw [revealed]
  split
  · rfl
  · cases highlighter <;> rfl

/-- A call that takes no events does and answers the same without the events that wait. -/
theorem perform?_preceded {call : Call} (keeps : call ≠ .takeEvents) :
    (c.preceded earlier).perform? limit call =
      (c.perform? limit call).map fun r => (r.1.preceded earlier, r.2) := by
  cases call with
  | start => simp only [perform?, start_preceded, Option.map_some]
  | advance delay =>
    have moved : (c.preceded earlier).advance? limit delay =
        (c.advance? limit delay).map (·.preceded earlier) := advanceTo?_preceded
    simp only [perform?, moved, Option.map_map, Function.comp_def]
  | advanceTo | sync =>
    simp only [perform?, sync?, advanceTo?_preceded, Option.map_map, Function.comp_def]
  | runUntilIdle =>
    simp only [perform?, runUntilIdle, run_preceded, Option.map_some]
    rfl
  | choose value => simp only [perform?, choose_preceded, Option.map_some]
  | annotate claim category => rfl
  | click claim highlighter => simp only [perform?, click_preceded, Option.map_some]
  | finishLoad result => rfl
  | takeEvents => exact absurd rfl keeps

/-- Calls lead where the first of them and then the others lead. -/
theorem map_play?_append (before after : List Call) : (c.play? limit (before ++ after)).map (·.1) =
    ((c.play? limit before).map (·.1)).bind fun d => (d.play? limit after).map (·.1) := by
  ext d
  simp only [Option.map_eq_some_iff, Option.bind_eq_some_iff, Prod.exists, play?_append]
  constructor
  · rintro ⟨_, _, ⟨e, log₁, log₂, h₁, h₂, rfl⟩, rfl⟩
    exact ⟨e, ⟨e, log₁, h₁, rfl⟩, _, log₂, h₂, rfl⟩
  · rintro ⟨e, ⟨_, log₁, h₁, rfl⟩, _, log₂, h₂, rfl⟩
    exact ⟨_, _, ⟨_, log₁, log₂, h₁, h₂, rfl⟩, rfl⟩

/-- A run in which no events are taken is the same without the events that waited before it. -/
theorem play?_preceded {calls : List Call} (keeps : .takeEvents ∉ calls) :
    (c.preceded earlier).play? limit calls =
      (c.play? limit calls).map fun r => (r.1.preceded earlier, r.2) := by
  induction calls generalizing c with
  | nil => rfl
  | cons call calls ih =>
    have keep : call ≠ .takeEvents := fun same => keeps (same ▸ List.mem_cons_self)
    have later : .takeEvents ∉ calls := fun mem => keeps (List.mem_cons_of_mem _ mem)
    rw [play?, play?, perform?_preceded keep]
    cases c.perform? limit call with
    | none => rfl
    | some r =>
      change (((r.1.preceded earlier).play? limit calls).bind fun rest =>
          some (rest.1, (call, r.2) :: rest.2)) =
        ((r.1.play? limit calls).bind fun rest => some (rest.1, (call, r.2) :: rest.2)).map
          fun r => (r.1.preceded earlier, r.2)
      rw [ih later]
      cases r.1.play? limit calls <;> rfl

/-- Without the events that wait, a conversation that is in order still is. -/
theorem Orderly.of_preceded (h : (c.preceded earlier).Orderly) : c.Orderly := by
  obtain ⟨m, stage, started⟩ := h.mode
  exact ⟨h.sound, m, ⟨stage.control, stage.scene, stage.known, stage.exit⟩, started⟩

end Inquest.Conversation
