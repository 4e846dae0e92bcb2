import Inquest.Proofs.Results
import Inquest.Proofs.Script.Faults
import Inquest.Script.File
/-!
# Scripts from drafts

A draft becomes a script exactly if no scene has both lines and feedback and every line is a template,
and nothing in the script is other than as it is written. Whatever order the scenes are read in, a draft
that is refused is refused for something that is wrong with a scene of it.
-/

namespace Inquest

def lineFault? (line : String) : Option TemplateError := fault? (Template.parse line)

/-- The templates are what the lines are read as, one by one. -/
def Reads (lines : List String) (ts : List Template) : Prop :=
  List.Forall₂ (fun line t => Template.parse line = .ok t) lines ts

theorem fault?_parseLines (scene : String) (lines : List String) :
    fault? (parseLines scene lines) = (lines.findSome? lineFault?).map (.template scene) := by
  rw [parseLines, fault?_mapM, List.map_findSome?]
  simp only [fault?_mapError]
  rfl

theorem parseLines_eq_ok_iff {scene : String} {lines : List String} {ts : List Template} :
    parseLines scene lines = .ok ts ↔ Reads lines ts := by
  simp only [parseLines, mapM_eq_ok_iff, mapError_eq_ok_iff, Reads]

namespace SceneDraft

def Mixed (d : SceneDraft) : Prop := d.lines ≠ [] ∧ d.feedback ≠ []

instance (d : SceneDraft) : Decidable d.Mixed :=
  inferInstanceAs (Decidable (d.lines ≠ [] ∧ d.feedback ≠ []))

/-- Every line that is written for the scene, in whatever branch. -/
def texts (d : SceneDraft) : List String := d.lines ++ d.feedback.flatMap (·.lines)

/-- The narration is what is written: the branches in their order if there are any, else the lines. -/
inductive Describes (d : SceneDraft) : Narration → Prop
  | lines {ts : List Template} (plain : d.feedback = []) (read : Reads d.lines ts) :
    d.Describes (.lines ts)
  | feedback {branches : List Branch} (given : d.feedback ≠ []) (alone : d.lines = [])
    (read : List.Forall₂ (fun b branch => branch.verdict = b.verdict ∧
      branch.allCorrect = b.allCorrect ∧ Reads b.lines branch.lines) d.feedback branches) :
    d.Describes (.feedback branches)

variable {d : SceneDraft} {name : String} {n : Narration} {sc : Scene}

theorem narration_of_plain (name : String) (plain : d.feedback = []) :
    d.narration name = (parseLines name d.lines).map .lines := by
  simp [narration, plain]

theorem narration_of_mixed (name : String) (mixed : d.Mixed) :
    d.narration name = .error (.linesAndFeedback name) := by
  simp [narration, mixed.1, mixed.2]

theorem narration_of_branches (name : String) (given : d.feedback ≠ []) (alone : d.lines = []) :
    d.narration name = (d.feedback.mapM fun b =>
      (parseLines name b.lines).map (Branch.mk b.verdict b.allCorrect)).map .feedback := by
  simp [narration, given, alone]

/-- A scene is written with lines only, with both, or with feedback only. -/
theorem plain_or_mixed_or_branches (d : SceneDraft) :
    d.feedback = [] ∨ d.Mixed ∨ (d.feedback ≠ [] ∧ d.lines = []) := by
  unfold Mixed
  tauto

theorem findSome?_flatMap_lines (branches : List BranchDraft) :
    (branches.flatMap (·.lines)).findSome? lineFault? =
      branches.findSome? (·.lines.findSome? lineFault?) := by
  induction branches with
  | nil => rfl
  | cons b branches ih =>
    rw [List.flatMap_cons, List.findSome?_append, ih, List.findSome?_cons]
    cases b.lines.findSome? lineFault? <;> rfl

/-- A scene is at fault if it has both lines and feedback, else for its first line that is no template. -/
theorem fault?_narration (d : SceneDraft) (name : String) : fault? (d.narration name) =
    if d.Mixed then some (.linesAndFeedback name)
    else (d.texts.findSome? lineFault?).map (.template name) := by
  rcases d.plain_or_mixed_or_branches with plain | mixed | ⟨given, alone⟩
  · have unmixed : ¬d.Mixed := fun both => both.2 plain
    rw [if_neg unmixed, narration_of_plain name plain, fault?_map, fault?_parseLines, texts, plain,
      List.flatMap_nil, List.append_nil]
  · rw [if_pos mixed, narration_of_mixed name mixed]
    rfl
  · have unmixed : ¬d.Mixed := fun both => both.1 alone
    rw [if_neg unmixed, narration_of_branches name given alone, fault?_map, fault?_mapM, texts, alone,
      List.nil_append, findSome?_flatMap_lines, List.map_findSome?]
    simp only [fault?_map, fault?_parseLines]
    rfl

theorem branch_eq_ok_iff {b : BranchDraft} {branch : Branch} :
    (parseLines name b.lines).map (Branch.mk b.verdict b.allCorrect) = .ok branch ↔
      branch.verdict = b.verdict ∧ branch.allCorrect = b.allCorrect ∧ Reads b.lines branch.lines := by
  rw [map_eq_ok_iff]
  simp only [parseLines_eq_ok_iff]
  constructor
  · rintro ⟨ts, read, rfl⟩
    exact ⟨rfl, rfl, read⟩
  · obtain ⟨verdict, allCorrect, ts⟩ := branch
    rintro ⟨rfl, rfl, read⟩
    exact ⟨ts, read, rfl⟩

theorem narration_eq_ok_iff : d.narration name = .ok n ↔ d.Describes n := by
  rcases d.plain_or_mixed_or_branches with plain | mixed | ⟨given, alone⟩
  · rw [narration_of_plain name plain, map_eq_ok_iff]
    simp only [parseLines_eq_ok_iff]
    constructor
    · rintro ⟨ts, read, rfl⟩
      exact .lines plain read
    · rintro (⟨-, read⟩ | ⟨given, -, -⟩)
      · exact ⟨_, read, rfl⟩
      · exact absurd plain given
  · rw [narration_of_mixed name mixed]
    refine iff_of_false nofun ?_
    rintro (⟨plain, -⟩ | ⟨-, alone, -⟩)
    · exact mixed.2 plain
    · exact mixed.1 alone
  · rw [narration_of_branches name given alone, map_eq_ok_iff]
    simp only [mapM_eq_ok_iff, branch_eq_ok_iff]
    constructor
    · rintro ⟨branches, read, rfl⟩
      exact .feedback given alone read
    · rintro (⟨plain, -⟩ | ⟨-, -, read⟩)
      · exact absurd plain given
      · exact ⟨_, read, rfl⟩

/-- What a draft is made of goes into the scene as it is. -/
theorem toScene_eq_ok_iff : d.toScene name = .ok sc ↔
    sc.name = name ∧ sc.leadIn = d.leadIn ∧ sc.exit = d.exit ∧ d.Describes sc.narration := by
  rw [toScene, map_eq_ok_iff]
  simp only [narration_eq_ok_iff]
  constructor
  · rintro ⟨n, described, rfl⟩
    exact ⟨rfl, rfl, rfl, described⟩
  · obtain ⟨name, leadIn, n, exit⟩ := sc
    rintro ⟨rfl, rfl, rfl, described⟩
    exact ⟨n, described, rfl⟩

end SceneDraft

theorem scenesOf_eq_mapM (ds : List (String × SceneDraft)) :
    scenesOf ds = ds.mapM fun d => d.2.toScene d.1 := by
  induction ds with
  | nil => rfl
  | cons d ds ih => rw [scenesOf, List.mapM_cons, ih]

namespace ScriptDraft

variable {d : ScriptDraft} {s : Script}

def inOrder (d : ScriptDraft) (order : List (String × SceneDraft)) (perm : order.Perm d.scenes) :
    ScriptDraft :=
  { d with scenes := order, nodup_names := (perm.map _).nodup_iff.2 d.nodup_names }

theorem scenesOf_of_toScript (h : d.toScript = .ok s) : scenesOf d.scenes = .ok s.scenes ∧
    s.title = d.title ∧ s.suspect = d.suspect ∧ s.start = d.start := by
  unfold toScript at h
  split at h
  · cases h
  · rename_i read
    cases h
    exact ⟨read, rfl, rfl, rfl⟩

/-- Under the name of a draft stands a scene that is as it is written. -/
theorem scene?_of_toScript {name : String} {draft : SceneDraft} (h : d.toScript = .ok s)
    (mem : (name, draft) ∈ d.scenes) : ∃ sc, s.scene? name = some sc ∧ sc.name = name ∧
      sc.leadIn = draft.leadIn ∧ sc.exit = draft.exit ∧ draft.Describes sc.narration := by
  have scenes := (scenesOf_of_toScript h).1
  rw [scenesOf_eq_mapM, mapM_eq_ok_iff] at scenes
  obtain ⟨sc, mem', read⟩ := exists_mem_of_forall₂ scenes mem
  have made := SceneDraft.toScene_eq_ok_iff.1 read
  exact ⟨sc, Script.scene?_eq_some_iff.2 ⟨mem', made.1⟩, made⟩

theorem fault?_toScript (d : ScriptDraft) :
    fault? d.toScript = d.scenes.findSome? fun e => fault? (e.2.narration e.1) := by
  -- The scenes carry the proof that their names are distinct, so there is no `map` to rewrite with.
  have scenes : fault? d.toScript = fault? (scenesOf d.scenes) := by
    unfold toScript
    split <;> simp_all [fault?]
  rw [scenes, scenesOf_eq_mapM, fault?_mapM]
  simp only [SceneDraft.toScene, fault?_map]

/-- A draft is refused for a scene with both lines and feedback, or for the first line of another scene
that is no template. -/
theorem exists_of_toScript_eq_error {e : ScriptError} (h : d.toScript = .error e) :
    ∃ name draft, (name, draft) ∈ d.scenes ∧
      (draft.Mixed ∧ e = .linesAndFeedback name ∨
        ¬draft.Mixed ∧ ∃ cause, draft.texts.findSome? lineFault? = some cause ∧
          e = .template name cause) := by
  rw [← fault?_eq_some_iff, fault?_toScript] at h
  obtain ⟨⟨name, draft⟩, mem, blamed⟩ := List.exists_of_findSome?_eq_some h
  refine ⟨name, draft, mem, ?_⟩
  rw [SceneDraft.fault?_narration] at blamed
  split at blamed
  · rename_i mixed
    exact .inl ⟨mixed, (Option.some.inj blamed).symm⟩
  · rename_i unmixed
    obtain ⟨cause, first, rfl⟩ := Option.map_eq_some_iff.1 blamed
    exact .inr ⟨unmixed, cause, first, rfl⟩

/-- A draft is a script if nothing is wrong with any of its scenes. -/
theorem exists_toScript_iff : (∃ s, d.toScript = .ok s) ↔
    ∀ scene ∈ d.scenes, ¬scene.2.Mixed ∧ ∀ line ∈ scene.2.texts, ∃ t, Template.parse line = .ok t := by
  rw [← fault?_eq_none_iff, fault?_toScript, List.findSome?_eq_none_iff]
  refine forall₂_congr fun scene _ => ?_
  rw [SceneDraft.fault?_narration]
  split
  · rename_i mixed
    exact iff_of_false nofun fun h => h.1 mixed
  · rename_i unmixed
    rw [Option.map_eq_none_iff, List.findSome?_eq_none_iff, and_iff_right unmixed]
    simp only [lineFault?, fault?_eq_none_iff]

/-- A draft whose scenes are read in any order is a script exactly if no scene has both lines and
feedback and every line is a template. Then the script has what is written: title, suspect and start, and
under the name of each scene its lead-in, its exit, and its branches or lines in their order. Otherwise it
is refused for a scene with both, or for the first line of another scene that is no template. The text of
a draft, in whatever notation, is read as the draft with its scenes in one of the orders. -/
theorem script_of_draft (d : ScriptDraft) (order : List (String × SceneDraft))
    (perm : order.Perm d.scenes) :
    ((∃ s, (d.inOrder order perm).toScript = .ok s) ↔ ∀ scene ∈ d.scenes,
      ¬scene.2.Mixed ∧ ∀ line ∈ scene.2.texts, ∃ t, Template.parse line = .ok t) ∧
    (∀ s, (d.inOrder order perm).toScript = .ok s →
      s.title = d.title ∧ s.suspect = d.suspect ∧ s.start = d.start ∧
      s.names.Perm (d.scenes.map (·.1)) ∧
      ∀ name draft, (name, draft) ∈ d.scenes → ∃ sc, s.scene? name = some sc ∧ sc.name = name ∧
        sc.leadIn = draft.leadIn ∧ sc.exit = draft.exit ∧ draft.Describes sc.narration) ∧
    (∀ e, (d.inOrder order perm).toScript = .error e → ∃ name draft, (name, draft) ∈ d.scenes ∧
      (draft.Mixed ∧ e = .linesAndFeedback name ∨
        ¬draft.Mixed ∧ ∃ cause, draft.texts.findSome? lineFault? = some cause ∧
          e = .template name cause)) ∧
    ∀ (read : Ron.Reading ScriptDraft) x, read x = .ok d →
      Script.parseWith read x = (d.inOrder d.scenes .rfl).toScript := by
  refine ⟨?_, ?_, ?_, ?_⟩
  · rw [exists_toScript_iff]
    exact forall_congr' fun scene => imp_congr_left perm.mem_iff
  · intro s loaded
    obtain ⟨scenes, title, suspect, start⟩ := scenesOf_of_toScript loaded
    refine ⟨title, suspect, start, ?_, ?_⟩
    · rw [Script.names, names_of_scenesOf scenes]
      exact perm.map _
    · exact fun name draft mem => scene?_of_toScript loaded (perm.mem_iff.2 mem)
  · intro e refused
    obtain ⟨name, draft, mem, blamed⟩ := exists_of_toScript_eq_error refused
    exact ⟨name, draft, perm.mem_iff.1 mem, blamed⟩
  · intro read x written
    rw [Script.parseWith, written]
    rfl

end ScriptDraft

namespace Briefing

def text : String := "(title:\"Brief\",suspect:\"Ada\",start:\"ask\",scenes:\x7b" ++
  "\"ask\":(lines:[\"Of \x7btotal\x7d?\"],exit:Continue(\"say\"))," ++
  "\"say\":(feedback:[(verdict:Guilty,all_correct:true,lines:[\"\x7b\x7b\"])],exit:End)\x7d)"

def ask : SceneDraft where
  lines := ["Of \x7btotal\x7d?"]
  exit := .proceed "say"

def say : SceneDraft where
  feedback := [⟨.guilty, true, ["\x7b\x7b"]⟩]
  exit := .close

def draft : ScriptDraft where
  title := "Brief"
  suspect := "Ada"
  start := "ask"
  scenes := [("ask", ask), ("say", say)]
  nodup_names := by decide

/-- A draft in which something is wrong with both scenes. -/
def muddled : ScriptDraft where
  title := "Brief"
  suspect := "Ada"
  start := "ask"
  scenes := [("ask", { ask with feedback := say.feedback }), ("say", { say with
    feedback := say.feedback ++ [⟨.notGuilty, true, ["\x7b\x7b", "\x7b"]⟩] })]
  nodup_names := by decide

/-- The order in which scenes are read does not show in a script, and it decides what is to blame where
more than one scene is at fault. -/
theorem script_of_reversed : Ron.parse (fun _ => ScriptDraft.decode) text = .ok draft ∧
    (∃ s, Script.parse text = .ok s) ∧
    (∃ s sc, (draft.inOrder _ (List.reverse_perm _)).toScript = .ok s ∧
      s.scene? "say" = some sc ∧ say.Describes sc.narration) ∧
    (muddled.inOrder _ (List.reverse_perm _)).toScript = .error (.template "say" .unclosedBrace) ∧
    (∃ scene, ("say", scene) ∈ muddled.scenes ∧ ¬scene.Mixed ∧
      scene.texts.findSome? lineFault? = some .unclosedBrace) ∧
    ¬∃ s, (muddled.inOrder _ .rfl).toScript = .ok s := by
  have read : Ron.parse (fun _ => ScriptDraft.decode) text = .ok draft := by decide +kernel
  have fine : ∀ scene ∈ draft.scenes,
      ¬scene.2.Mixed ∧ ∀ line ∈ scene.2.texts, ∃ t, Template.parse line = .ok t := by
    simp only [← fault?_eq_none_iff]
    decide +kernel
  have refused : (muddled.inOrder _ (List.reverse_perm _)).toScript =
      .error (.template "say" .unclosedBrace) :=
    fault?_eq_some_iff.1 (by decide +kernel)
  obtain ⟨accepted, -, -, parsed⟩ := draft.script_of_draft draft.scenes .rfl
  obtain ⟨accepted', described, -, -⟩ := draft.script_of_draft _ (List.reverse_perm _)
  refine ⟨read, ?_, ?_, refused, ?_, ?_⟩
  · rw [Script.parse, parsed _ text read]
    exact accepted.2 fine
  · obtain ⟨s, loaded⟩ := accepted'.2 fine
    obtain ⟨-, -, -, -, scenes⟩ := described s loaded
    obtain ⟨sc, found, -, -, -, same⟩ := scenes "say" say (by decide)
    exact ⟨s, sc, loaded, found, same⟩
  · obtain ⟨-, -, blamed, -⟩ := muddled.script_of_draft _ (List.reverse_perm _)
    obtain ⟨name, scene, mem, ⟨-, other⟩ | ⟨unmixed, cause, first, same⟩⟩ := blamed _ refused
    · cases other
    · cases same
      exact ⟨scene, mem, unmixed, first⟩
  · intro loaded
    have sound := (muddled.script_of_draft _ .rfl).1.1 loaded
    exact absurd (by decide) (sound ("ask", { ask with feedback := say.feedback }) (by decide)).1

end Briefing

end Inquest
