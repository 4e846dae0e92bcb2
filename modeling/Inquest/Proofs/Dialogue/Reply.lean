import Inquest.Proofs.Dialogue.Turn
/-!
# Replies of the player

What happens when the player picks an option. At a gate of a sound script a value is refused exactly
if no option of the gate has it, and a value that is not refused always leads to a scene.
-/

namespace Inquest

def Exit.verdict? (e : Exit) (value : String) : Option Verdict :=
  match e with
  | gate .verdict _ => Verdict.ofWord? value
  | _ => none

def Event.verdict? : Event → Option Verdict
  | verdictReported v => some v
  | _ => none

def verdicts (es : List Event) : List Verdict := es.filterMap Event.verdict?

@[simp] theorem verdicts_append (es fs : List Event) :
    verdicts (es ++ fs) = verdicts es ++ verdicts fs := by
  simp [verdicts]

/-- What picking an option of the scene's gate amounts to. -/
def Scene.reply (sc : Scene) (number : Nat) (o : GateOption) : Reply :=
  ⟨Mode.decision sc number, o.label, o.value, o.next, sc.exit.verdict? o.value⟩

namespace Stage

def replyLine (s : Stage) (r : Reply) : Line :=
  ⟨s.hearing.narrator.nextLine, .responder, r.label, s.agenda.now⟩

/-- The player's side of the dialogue: the option's label joins the history, and the decision goes.
-/
def answered (s : Stage) (r : Reply) : Stage :=
  { s with
    hearing.shown := none
    hearing.narrator := s.hearing.narrator.push (s.replyLine r) }.emit
      ⟨[.lineRevealed (s.replyLine r), .decisionResolved r.decision.id r.value], []⟩

variable {s : Stage} {sc : Scene} {number : Nat}

theorem accept_eq (r : Reply) :
    s.accept r = r.verdict.elim (s.answered r) (s.answered r).deliver := by
  have answered : s.answered r = (({ s with hearing := s.hearing.take.1 }.respond r.label
      s.agenda.now).1.emit
        ⟨[.lineRevealed (s.replyLine r), .decisionResolved r.decision.id r.value], []⟩) := by
    simp [Stage.answered, replyLine, Hearing.take, respond, Narrator.respond, Narrator.record,
      onNarrator, emit, Effects.none]
  rw [answered]
  cases hv : r.verdict <;> simp only [accept, hv] <;> rfl

@[simp] theorem walk_deliver (v : Verdict) : (s.deliver v).walk = s.walk := by
  unfold deliver; split <;> rfl
@[simp] theorem agenda_deliver (v : Verdict) : (s.deliver v).agenda = s.agenda := by
  unfold deliver; split <;> rfl
@[simp] theorem control_deliver (v : Verdict) : (s.deliver v).control = s.control := by
  unfold deliver; split <;> rfl
@[simp] theorem narrator_deliver (v : Verdict) :
    (s.deliver v).hearing.narrator = s.hearing.narrator := by
  unfold deliver; split <;> rfl
@[simp] theorem nextDecision_deliver (v : Verdict) :
    (s.deliver v).hearing.nextDecision = s.hearing.nextDecision := by
  unfold deliver; split <;> rfl

@[simp] theorem walk_accept (r : Reply) : (s.accept r).walk = s.walk := by
  rw [accept_eq]; cases r.verdict <;> simp [answered]
@[simp] theorem agenda_accept (r : Reply) : (s.accept r).agenda = s.agenda := by
  rw [accept_eq]; cases r.verdict <;> simp [answered]
@[simp] theorem control_accept (r : Reply) :
    (s.accept r).control = { s.control with shown := none } := by
  rw [accept_eq]
  cases r.verdict with
  | none => rfl
  | some v => exact control_deliver v
@[simp] theorem narrator_accept (r : Reply) :
    (s.accept r).hearing.narrator = (s.answered r).hearing.narrator := by
  rw [accept_eq]; cases r.verdict <;> simp
@[simp] theorem nextDecision_accept (r : Reply) :
    (s.accept r).hearing.nextDecision = s.hearing.nextDecision := by
  rw [accept_eq]; cases r.verdict <;> simp [answered]

/-- Only the first verdict is recorded, with the grading of the marks as they are. -/
theorem ruling_accept (r : Reply) : (s.accept r).hearing.ruling =
    s.hearing.ruling.or (r.verdict.map (⟨·, s.grade?.getD {}⟩)) := by
  rw [accept_eq]
  cases hr : s.hearing.ruling <;> cases r.verdict <;>
    simp [deliver, answered, hr, Hearing.rule, grade?]

/-- Only the first verdict is handed to the host. -/
theorem reported_accept (r : Reply) : (s.accept r).reported =
    s.reported ++ if s.hearing.ruling.isSome then [] else r.verdict.toList := by
  rw [accept_eq]
  cases hr : s.hearing.ruling <;> cases r.verdict <;> simp [deliver, answered, hr]

/-- Accepting a reply tells the player's line, the decision's end, and the first verdict. -/
theorem events_accept (r : Reply) : (s.accept r).events.toList = s.events.toList ++
    ([.lineRevealed (s.replyLine r), .decisionResolved r.decision.id r.value] ++
      if s.hearing.ruling.isSome then [] else r.verdict.toList.map .verdictReported) := by
  rw [accept_eq]
  cases hr : s.hearing.ruling <;> cases r.verdict <;> simp [deliver, answered, hr]

/-- A reply that stands tells of its verdict, if it is the first. -/
theorem verdicts_accept (r : Reply) : verdicts (s.accept r).events.toList =
    verdicts s.events.toList ++ if s.hearing.ruling.isSome then [] else r.verdict.toList := by
  rw [events_accept, verdicts_append]
  cases s.hearing.ruling <;> cases r.verdict <;> rfl

/-- Accepting a reply and entering a scene tells of the reply and then of the scene. -/
theorem events_entering_accept (r : Reply) (sc : Scene) :
    ((s.accept r).entering sc).events.toList = s.events.toList ++
      (([.lineRevealed (s.replyLine r), .decisionResolved r.decision.id r.value] ++
        if s.hearing.ruling.isSome then [] else r.verdict.toList.map .verdictReported) ++
      [.sceneEntered sc.name]) := by
  rw [toList_events_entering, events_accept, List.append_assoc]

/-- Nothing can be picked while nothing is asked. -/
theorem reply?_of_shown_eq_none (h : s.hearing.shown = none) (value : String) :
    s.reply? value = .error .noPendingDecision := by
  simp [reply?, h]

/-- At a gate a value is refused exactly if no option has it. -/
theorem reply?_of_asking (sound : s.walk.script.Sound) (h : s.In (.asking sc number))
    (value : String) :
    s.reply? value = match sc.exit.options.find? (·.value = value) with
      | none => .error (.unknownOption value)
      | some o => .ok (sc.reply number o) := by
  have known : s.walk.script.scene? sc.name = some sc := h.known sc rfl
  have shown : s.hearing.shown = some (Mode.decision sc number) := congrArg Control.shown h.control
  have offered : (Mode.decision sc number).option? value =
      (sc.exit.options.find? (·.value = value)).map (·.toChoice) := by
    simp only [Decision.option?, Mode.decision, List.find?_map]
    rfl
  simp only [reply?, shown, offered]
  cases ho : sc.exit.options.find? (·.value = value) with
  | none => rfl
  | some o =>
    have hv : o.value = value := by simpa using List.find?_some ho
    have mem : o ∈ sc.exit.options := List.mem_of_find?_eq_some ho
    simp only [Option.map_some, Mode.decision, known, ho]
    obtain ⟨kind, options, exit, -⟩ := h.exit
    cases kind with
    | choice => simp [exit, Scene.reply, Exit.verdict?, Mode.decision, hv]
    | verdict =>
      have word := (sound.exit known).words options exit o (by simpa [exit, Exit.options] using mem)
      obtain ⟨verdict, hw⟩ := Option.isSome_iff_exists.1 word
      rw [hv] at hw
      simp [exit, Scene.reply, Exit.verdict?, Mode.decision, hv, hw]

/-- A reply that stands leads to the lead-in of its scene. -/
theorem resolve_of_asking (sound : s.walk.script.Sound) (h : s.In (.asking sc number))
    {value : String} {o : GateOption} (ho : sc.exit.options.find? (·.value = value) = some o) :
    ∃ sc', s.walk.script.scene? o.next = some sc' ∧
      s.resolve value = ((s.accept (sc.reply number o)).entering sc', .ok ()) ∧
      ((s.accept (sc.reply number o)).entering sc').In
        (.leadIn sc' (s.agenda.now + sc'.leadIn)) := by
  have known : s.walk.script.scene? sc.name = some sc := h.known sc rfl
  have target : o.next ∈ sc.exit.targets := by
    have mem : o ∈ sc.exit.options := List.mem_of_find?_eq_some ho
    obtain ⟨kind, options, exit, -⟩ := h.exit
    rw [exit] at mem ⊢
    exact List.mem_map_of_mem mem
  obtain ⟨sc', found⟩ := sound.scene?_of_mem_targets known target
  have name : sc'.name = o.next := (Script.mem_of_scene? found).2
  let t := s.accept (sc.reply number o)
  have script : t.walk.script = s.walk.script := congrArg Walk.script (walk_accept _)
  have entered : t.enter o.next = (t.entering sc', .ok ()) :=
    enter_of_scene? (by rw [script]; exact found)
  refine ⟨sc', found, ?_, ?_⟩
  · rw [resolve, reply?_of_asking sound h, ho]
    exact entered
  · have quiet : t.control = {} := by
      rw [control_accept, h.control]
      rfl
    have waits := in_entering quiet (by rw [script, name]; exact found)
    rwa [agenda_accept] at waits

/-- A choice that is refused changes nothing. -/
theorem resolve_of_error {value : String} {e : ChoiceError} (h : s.reply? value = .error e) :
    s.resolve value = (s, .error e) := by
  rw [resolve, h]

end Stage

end Inquest
