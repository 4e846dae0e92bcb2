import Inquest.Proofs.Conversation.Mode
/-!
# Choices in a conversation

A choice is refused exactly if nothing is asked or if no option on offer has the value, and then it
changes nothing. A choice that stands says the label of the one option with the value and enters the
scene of that option, and no other task is planned.
-/

namespace Inquest

namespace Conversation

/-- What has come of picking the option `o`, which leads to the scene `next`. -/
structure Picked (c : Conversation) (o : GateOption) (next : Scene) (c' : Conversation) : Prop where
  history : c'.history = c.history.push ⟨c.history.size + 1, .responder, o.label, c.now⟩
  decision : c'.decision? = none
  held : c'.stage.hearing.held = none
  found : c.script.scene? o.next = some next
  scene : c'.scene? = some o.next
  pending : ∃ due : Millis, c'.stage.agenda.pending = [⟨due, .narrate o.next⟩] ∧
    due.val = min Millis.maxVal (c.now.val + next.leadIn.val)
  now : c'.now = c.now

variable {c : Conversation} {sc : Scene} {number : Nat} {value : String} {o : GateOption}

/-- Picking an option of the gate that asks. -/
theorem picked_of_find?_eq_some (sound : c.script.Sound) (hm : c.In (.asking sc number))
    (ho : sc.exit.options.find? (·.value = value) = some o) :
    (c.choose value).2 = .ok () ∧ ∃ next, c.Picked o next (c.choose value).1 := by
  obtain ⟨next, found, eq, waits⟩ := choose_of_find?_eq_some sound hm ho
  have name : next.name = o.next := (Script.mem_of_scene? found).2
  have control := waits.stage.control
  simp only [Stage.control, Mode.control, Control.mk.injEq, name] at control
  obtain ⟨pending, -, -, -, -, shown, held, -⟩ := control
  refine ⟨by rw [eq], next, ?_, shown, held, found, ?_, ⟨_, pending, rfl⟩, ?_⟩
  · have number : c.stage.hearing.narrator.nextLine = c.history.size + 1 :=
      c.stage.hearing.narrator.numbered
    rw [eq, ← number]
    exact congrArg Narrator.history (Stage.narrator_accept _)
  · rw [← name]
    exact waits.stage.scene
  · rw [eq]
    change (c.stage.accept (sc.reply number o)).agenda.now = c.stage.agenda.now
    rw [Stage.agenda_accept]

/-- The decision on screen offers a value exactly if some option of the gate has it. -/
theorem mem_values_decision : value ∈ (Mode.decision sc number).options.map (·.value) ↔
    ∃ o, sc.exit.options.find? (·.value = value) = some o := by
  rw [← Option.isSome_iff_exists, List.find?_isSome]
  simp [Mode.decision]

/-- Whatever its host does, a conversation that was set up refuses a choice exactly if nothing is
asked or no option on offer has the value, and is then as it was. The one option that has the value
of a choice that stands says its label and leads to its scene. -/
theorem choose_exact_of_reaches {s : Setup} {c₀ : Conversation} (hb : s.build = .ok c₀)
    (h : c₀.Reaches c) (value : String) :
    ((c.choose value).2 = .error .noPendingDecision ↔ c.decision? = none) ∧
    ((c.choose value).2 = .error (.unknownOption value) ↔
      ∃ d, c.decision? = some d ∧ value ∉ d.options.map (·.value)) ∧
    ((c.choose value).2 = .ok () ↔ ∃ d, c.decision? = some d ∧ value ∈ d.options.map (·.value)) ∧
    (∀ e, (c.choose value).2 = .error e →
      (e = .noPendingDecision ∨ e = .unknownOption value) ∧ (c.choose value).1 = c) ∧
    ((c.choose value).2 = .ok () → ∃ d sc o next, c.decision? = some d ∧
      c.script.scene? d.scene = some sc ∧ d.options = sc.exit.options.map (·.toChoice) ∧
      (∀ o', o' ∈ sc.exit.options ∧ o'.value = value ↔ o' = o) ∧
      c.Picked o next (c.choose value).1) := by
  have orderly := orderly_of_reaches hb h
  obtain ⟨m, hm⟩ := orderly.mode
  rcases decision?_of_in hm with none | ⟨sc, number, rfl⟩
  · rw [choose_of_decision?_eq_none none, none]
    simp
  · have asked := decision?_of_asking hm
    have known := hm.stage.known sc rfl
    cases ho : sc.exit.options.find? (·.value = value) with
    | none =>
      have missing : value ∉ (Mode.decision sc number).options.map (·.value) := by
        rw [mem_values_decision, ho]
        simp
      rw [choose_of_find?_eq_none orderly.sound hm ho, asked]
      simpa using missing
    | some o =>
      have offered : value ∈ (Mode.decision sc number).options.map (·.value) :=
        mem_values_decision.2 ⟨o, ho⟩
      have mem : o ∈ sc.exit.options := List.mem_of_find?_eq_some ho
      have word : o.value = value := by simpa using List.find?_some ho
      have unique : ∀ o', o' ∈ sc.exit.options ∧ o'.value = value ↔ o' = o := by
        intro o'
        constructor
        · rintro ⟨mem', word'⟩
          exact (orderly.sound.exit known).eq_of_value_eq mem' mem (word'.trans word.symm)
        · rintro rfl
          exact ⟨mem, word⟩
      obtain ⟨ok, next, picked⟩ := picked_of_find?_eq_some orderly.sound hm ho
      refine ⟨?_, ?_, ?_, ?_, fun _ => ⟨_, sc, o, next, asked, known, rfl, unique, picked⟩⟩
      · simp [ok, asked]
      · simpa [ok, asked] using offered
      · simpa [ok, asked] using offered
      · simp [ok]

end Conversation

namespace Gated

/-- The case with a word that is no answer, and with one that is. -/
theorem choose_exact_of_asking :
    ∃ c log, setup.build = .ok opening ∧
      opening.play? 10 [.start, .runUntilIdle] = some (c, log) ∧
      (c.choose "maybe").2 = .error (.unknownOption "maybe") ∧ (c.choose "maybe").1 = c ∧
      (c.choose "guilty").2 = .ok () ∧
      ∃ o next, o.value = "guilty" ∧ c.Picked o next (c.choose "guilty").1 := by
  refine ⟨_, _, build_setup, rfl, rfl, ?_, rfl, ?_⟩
  · have exact := Conversation.choose_exact_of_reaches build_setup
      ⟨10, [.start, .runUntilIdle], _, rfl⟩ "maybe"
    exact (exact.2.2.2.1 _ rfl).2
  · have exact := Conversation.choose_exact_of_reaches build_setup
      ⟨10, [.start, .runUntilIdle], _, rfl⟩ "guilty"
    obtain ⟨d, sc, o, next, -, -, -, unique, picked⟩ := exact.2.2.2.2 rfl
    exact ⟨o, next, ((unique o).2 rfl).2, picked⟩

end Gated

end Inquest
