import Inquest.Proofs.Dialogue.Moves
/-!
# Refused choices

A choice is judged before anything is changed, but the scene that it leads to is looked up only after
the reply has been accepted. When there is no such scene, the choice is refused although the decision
is gone, the player has spoken and a verdict has been handed to the host. The other refusals change
nothing. A script on whose stage no refusal ever changes anything is exactly one in which every option
that can be picked leads to a scene, as in every sound script.
-/

namespace Inquest

/-- A value picks an option of an exit. At a verdict gate the value has to stand for a verdict, and of
two options with one value the later cannot be picked. -/
structure Exit.Picks (e : Exit) (value : String) (o : GateOption) : Prop where
  first : e.options.find? (·.value = value) = some o
  word : ∀ options, e = .gate .verdict options → (Verdict.ofWord? value).isSome

/-- Only a verdict gate asks for a verdict. -/
theorem Exit.verdict?_eq_none {e : Exit} {value : String}
    (plain : ∀ options, e ≠ .gate .verdict options) : e.verdict? value = none := by
  unfold verdict?
  split
  · exact absurd rfl (plain _)
  · rfl

/-- Every option that can be picked leads to a scene. -/
def Script.Grounded (s : Script) : Prop :=
  ∀ sc ∈ s.scenes, ∀ value o, sc.exit.Picks value o → s.hasScene o.next

theorem Script.Sound.grounded {s : Script} (h : s.Sound) : s.Grounded := by
  intro sc mem value o pick
  have offered : o ∈ sc.exit.options := List.mem_of_find?_eq_some pick.first
  refine (h.exits sc mem).targets o.next ?_
  cases exit : sc.exit with
  | gate kind options =>
    rw [exit] at offered
    exact List.mem_map_of_mem offered
  | proceed | close =>
    rw [exit] at offered
    exact absurd offered List.not_mem_nil

namespace Stage

variable {s : Stage} {value : String} {r : Reply}

/-- A reply stands exactly if the decision on screen offers its value and the value picks an option
of the scene that the decision names. -/
theorem reply?_eq_ok_iff : s.reply? value = .ok r ↔ ∃ d choice sc o,
    s.hearing.shown = some d ∧ d.option? value = some choice ∧
    s.walk.script.scene? d.scene = some sc ∧ sc.exit.Picks value o ∧
    r = ⟨d, choice.label, value, o.next, sc.exit.verdict? value⟩ := by
  constructor
  · intro h
    cases shown : s.hearing.shown with
    | none => simp [reply?, shown] at h
    | some d =>
    cases offered : d.option? value with
    | none => simp [reply?, shown, offered] at h
    | some choice =>
    cases known : s.walk.script.scene? d.scene with
    | none => simp [reply?, shown, offered, known] at h
    | some sc =>
    cases first : sc.exit.options.find? (·.value = value) with
    | none => simp [reply?, shown, offered, known, first] at h
    | some o =>
    simp only [reply?, shown, offered, known, first] at h
    refine ⟨d, choice, sc, o, rfl, offered, known, ?_⟩
    split at h
    · rename_i options exit
      cases word : Verdict.ofWord? value with
      | none => simp [word] at h
      | some verdict =>
        simp only [word, Except.ok.injEq] at h
        refine ⟨⟨first, fun _ _ => by rw [word]; rfl⟩, ?_⟩
        rw [← h, exit, Exit.verdict?, word]
    · rename_i plain
      refine ⟨⟨first, fun options exit => absurd exit (plain options)⟩, ?_⟩
      rw [← Except.ok.inj h, Exit.verdict?_eq_none plain]
  · rintro ⟨d, choice, sc, o, shown, offered, known, pick, rfl⟩
    simp only [reply?, shown, offered, known, pick.first]
    cases exit : sc.exit with
    | gate kind options =>
      cases kind with
      | choice => rfl
      | verdict =>
        obtain ⟨verdict, word⟩ := Option.isSome_iff_exists.1 (pick.word options exit)
        simp [Exit.verdict?, word]
    | proceed | close => rfl

/-- Accepting a reply is never without trace: the player has spoken. -/
theorem accept_ne (s : Stage) (r : Reply) : s.accept r ≠ s := by
  intro same
  have grown : (s.accept r).hearing.narrator.history.size =
      s.hearing.narrator.history.size + 1 := by
    rw [narrator_accept]
    exact Array.size_push _
  rw [same] at grown
  omega

/-- A reply that leads nowhere is accepted and refused at once. -/
theorem resolve_of_missing (stands : s.reply? value = .ok r)
    (missing : s.walk.script.scene? r.next = none) :
    s.resolve value = (s.accept r, .error (.unknownScene r.next)) := by
  have lost : (s.accept r).walk.script.scene? r.next = none := by rw [walk_accept]; exact missing
  simp only [resolve, stands, enter, lost]

/-- A reply that leads to a scene is accepted. -/
theorem resolve_of_scene? {sc : Scene} (stands : s.reply? value = .ok r)
    (found : s.walk.script.scene? r.next = some sc) :
    s.resolve value = ((s.accept r).entering sc, .ok ()) := by
  have there : (s.accept r).walk.script.scene? r.next = some sc := by rw [walk_accept]; exact found
  rw [resolve, stands]
  exact enter_of_scene? there

/-- A refusal changes nothing, or it comes after a reply that stands but leads nowhere. -/
theorem eq_or_missing_of_resolve_error {e : ChoiceError} (h : (s.resolve value).2 = .error e) :
    (s.resolve value).1 = s ∨ ∃ r, s.reply? value = .ok r ∧
      s.walk.script.scene? r.next = none ∧ e = .unknownScene r.next ∧
      (s.resolve value).1 = s.accept r := by
  cases stands : s.reply? value with
  | error e' =>
    left
    rw [resolve_of_error stands]
  | ok r =>
    right
    cases target : s.walk.script.scene? r.next with
    | none =>
      rw [resolve_of_missing stands target] at h ⊢
      exact ⟨r, rfl, target, (Except.error.inj h).symm, rfl⟩
    | some sc =>
      rw [resolve_of_scene? stands target] at h
      cases h

/-- Where every option that can be picked leads to a scene, a refusal changes nothing. -/
theorem resolve_eq_of_grounded (ground : s.walk.script.Grounded) {e : ChoiceError}
    (h : (s.resolve value).2 = .error e) : (s.resolve value).1 = s := by
  rcases eq_or_missing_of_resolve_error h with same | ⟨r, stands, missing, -, -⟩
  · exact same
  · obtain ⟨d, choice, sc, o, -, -, known, pick, rfl⟩ := reply?_eq_ok_iff.1 stands
    obtain ⟨sc', found⟩ :=
      Script.hasScene_iff.1 (ground sc (Script.mem_of_scene? known).1 value o pick)
    rw [found] at missing
    cases missing

/-- A decision offered by hand to a player who is waiting is shown at once. -/
theorem shown_offer_opening (script : Script) (pacing : Pacing) (store : AnswerStore)
    (suspect : Option String) (scene : String) (options : List Choice) :
    ((opening script pacing store suspect).offer scene options).1.hearing.shown =
      some ⟨1, scene, options⟩ := rfl

/-- An option that can be picked and leads nowhere: a decision with its value, offered at the
beginning, is refused and yet leaves its trace. -/
theorem exists_trace_of_not_hasScene {script : Script} {sc : Scene} {o : GateOption}
    (mem : sc ∈ script.scenes) (pick : sc.exit.Picks value o) (loose : ¬script.hasScene o.next)
    (pacing : Pacing) (store : AnswerStore) (suspect : Option String) :
    let s := (opening script pacing store suspect).move (.offer sc.name [⟨"", value⟩])
    (s.resolve value).2 = .error (.unknownScene o.next) ∧ (s.resolve value).1 ≠ s := by
  intro s
  have shown : s.hearing.shown = some ⟨1, sc.name, [⟨"", value⟩]⟩ := shown_offer_opening ..
  have stands : s.reply? value = .ok ⟨_, "", value, o.next, sc.exit.verdict? value⟩ :=
    reply?_eq_ok_iff.2 ⟨_, ⟨"", value⟩, sc, o, shown, by simp [Decision.option?],
      Script.scene?_of_mem mem, pick, rfl⟩
  have missing : s.walk.script.scene? o.next = none := by
    rw [Option.eq_none_iff_forall_not_mem]
    intro sc' found
    exact loose (Script.hasScene_iff.2 ⟨sc', found⟩)
  rw [resolve_of_missing stands missing]
  exact ⟨rfl, accept_ne s _⟩

/-- What a refused choice leaves behind. On any stage it changes nothing, except after a reply that
stands but leads nowhere, which has been accepted and has left its trace. Whatever moves a host makes
from the beginning, no refusal ever changes anything exactly if every option of the script that can be
picked leads to a scene; so it is for every script that passes the check. -/
theorem refusals_of_script (script : Script) :
    (∀ (s : Stage) (value : String) (e : ChoiceError), (s.resolve value).2 = .error e →
      (s.resolve value).1 = s ∨ ∃ r, s.reply? value = .ok r ∧
        s.walk.script.scene? r.next = none ∧ e = .unknownScene r.next ∧
        (s.resolve value).1 = s.accept r ∧ s.accept r ≠ s) ∧
    ((∀ (pacing : Pacing) (store : AnswerStore) (suspect : Option String) (ms : List Move)
        (value : String) (e : ChoiceError),
      let s := (opening script pacing store suspect).moves ms
      (s.resolve value).2 = .error e → (s.resolve value).1 = s) ↔ script.Grounded) ∧
    (script.check = .ok () → script.Grounded) := by
  refine ⟨?_, ⟨?_, ?_⟩, ?_⟩
  · intro s value e refused
    refine (eq_or_missing_of_resolve_error refused).imp_right ?_
    rintro ⟨r, stands, missing, error, accepted⟩
    exact ⟨r, stands, missing, error, accepted, accept_ne s r⟩
  · intro untouched sc mem value o pick
    refine Classical.byContradiction fun loose => ?_
    obtain ⟨refused, trace⟩ := exists_trace_of_not_hasScene mem pick loose .standard .loading none
    exact trace (untouched .standard .loading none [.offer sc.name [⟨"", value⟩]] value _ refused)
  · intro ground pacing store suspect ms value e s refused
    refine resolve_eq_of_grounded ?_ refused
    rw [script_moves]
    exact ground
  · intro accepted
    exact (Script.check_eq_ok_iff.1 accepted).grounded

end Stage

namespace LooseEnd

/-- A verdict gate with an option that leads nowhere, as an author may write it. -/
def draft : ScriptDraft where
  title := "Loose end"
  suspect := "Flora Jasmine"
  start := "ask"
  scenes := [("ask", {
    lines := ["Well?"]
    exit := .gate .verdict
      [⟨⟨"Guilty", "guilty"⟩, "nowhere"⟩, ⟨⟨"Not guilty", "not-guilty"⟩, "ask"⟩] })]
  nodup_names := by decide

def script : Script where
  title := "Loose end"
  suspect := "Flora Jasmine"
  start := "ask"
  scenes := [⟨"ask", 0, .lines [⟨[.literal "Well?"]⟩], .gate .verdict
    [⟨⟨"Guilty", "guilty"⟩, "nowhere"⟩, ⟨⟨"Not guilty", "not-guilty"⟩, "ask"⟩]⟩]
  nodup_names := by decide

theorem parse_line : Template.parse "Well?" = .ok ⟨[.literal "Well?"]⟩ := by
  simp [Template.parse, Template.pieces]
  rfl

theorem toScript_draft : draft.toScript = .ok script := by
  have scenes : scenesOf draft.scenes = .ok script.scenes := by
    simp only [draft, scenesOf, SceneDraft.toScene, SceneDraft.narration, parseLines, parse_line,
      List.mapM_cons, List.mapM_nil]
    rfl
  unfold ScriptDraft.toScript
  split
  · rename_i failed
    rw [scenes] at failed
    cases failed
  · rename_i read
    rw [scenes] at read
    cases read
    rfl

def asking : Stage := (Stage.opening script .instant .reference none).moves
  [.start, .pop 0, .narrate "ask", .pop 0, .reveal, .pop 0, .resume, .leave]

/-- A refused choice that takes the decision away, adds a line to the history, and records and reports
a verdict. -/
theorem resolve_changes_of_asking : draft.toScript = .ok script ∧
    (asking.resolve "guilty").2 = .error (.unknownScene "nowhere") ∧
    (asking.resolve "guilty").1.hearing.shown ≠ asking.hearing.shown ∧
    (asking.resolve "guilty").1.hearing.narrator.history ≠ asking.hearing.narrator.history ∧
    (asking.resolve "guilty").1.hearing.ruling ≠ asking.hearing.ruling ∧
    (asking.resolve "guilty").1.events ≠ asking.events ∧
    (asking.resolve "guilty").1.reported ≠ asking.reported :=
  ⟨toScript_draft, by decide +kernel⟩

end LooseEnd

end Inquest
