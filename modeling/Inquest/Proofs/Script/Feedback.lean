import Inquest.Proofs.Script.Sound
/-!
# Feedback that is missing

A feedback scene says the lines of its first branch for the verdict and for whether all was correct. The
warnings about a script name exactly the cases in which there is none, so a scene without such warnings
always has a branch to say.
-/

namespace Inquest

/-- There are counts for either outcome. -/
theorem Tally.exists_allCorrect_eq (allCorrect : Bool) : ∃ t : Tally, t.allCorrect = allCorrect := by
  cases allCorrect with
  | true => exact ⟨⟨1, 0, 1⟩, rfl⟩
  | false => exact ⟨{}, rfl⟩

/-- The branch is for the verdict and the counts. A verdict not yet given is taken to be not guilty. -/
def Branch.Fits (b : Branch) (verdict : Option Verdict) (summary : Tally) : Prop :=
  b.verdict = verdict.getD .notGuilty ∧ b.allCorrect = summary.allCorrect

/-- The branch of a feedback scene whose lines are said. -/
def Scene.branch? (sc : Scene) (verdict : Option Verdict) (summary : Tally) : Option Branch :=
  match sc.narration with
  | .lines _ => none
  | .feedback branches =>
    branches.find? fun b => b.verdict = verdict.getD .notGuilty && b.allCorrect == summary.allCorrect

namespace Narration

variable {scene name : String} {v : Verdict} {allCorrect : Bool}

theorem mem_cases (c : Verdict × Bool) : c ∈ cases := by
  rcases c with ⟨_ | _, _ | _⟩ <;> decide

/-- There is a warning for a case exactly if no branch is for it. -/
theorem uncovered_mem_issues_iff {n : Narration} : .uncovered name v allCorrect ∈ n.issues scene ↔
    name = scene ∧ ∃ branches, n = .feedback branches ∧ ¬covers branches v allCorrect := by
  cases n with
  | lines => simp [issues]
  | feedback branches =>
    simp only [issues, List.mem_map, List.mem_filter, mem_cases, true_and, feedback.injEq,
      exists_eq_left']
    constructor
    · rintro ⟨c, uncovered, ⟨⟩⟩
      exact ⟨rfl, by simpa using uncovered⟩
    · rintro ⟨rfl, uncovered⟩
      exact ⟨(v, allCorrect), by simpa using uncovered, rfl⟩

end Narration

/-- No issue of an exit is about feedback. -/
theorem Exit.uncovered_notMem_issues {e : Exit} {s : Script} {scene name : String} {v : Verdict}
    {allCorrect : Bool} : .uncovered name v allCorrect ∉ e.issues s scene :=
  fun mem => nomatch isError_of_mem_issues mem

namespace Script

variable {s : Script} {sc : Scene} {name : String} {v : Verdict} {allCorrect : Bool}

/-- Warnings about feedback are about single scenes. -/
theorem uncovered_mem_issues_iff : .uncovered name v allCorrect ∈ s.issues ↔
    ∃ sc ∈ s.scenes, .uncovered name v allCorrect ∈ sc.narration.issues sc.name := by
  simp only [issues, List.mem_append, List.mem_flatMap, mem_sortedScenes, Scene.issues,
    Exit.uncovered_notMem_issues, false_or]
  constructor
  · rintro (((start | scene) | graph) | ending)
    · split at start <;> simp at start
    · exact scene
    · obtain ⟨sc, -, same⟩ := List.mem_map.1 graph
      cases same
    · split at ending <;> simp at ending
  · exact fun scene => .inl (.inl (.inr scene))

/-- A scene is told apart by its name, so a warning for its name is about its own branches. -/
theorem uncovered_name_mem_issues_iff {branches : List Branch} (mem : sc ∈ s.scenes)
    (feedback : sc.narration = .feedback branches) :
    .uncovered sc.name v allCorrect ∈ s.issues ↔ ¬Narration.covers branches v allCorrect := by
  rw [uncovered_mem_issues_iff]
  constructor
  · rintro ⟨sc', mem', warned⟩
    obtain ⟨same, branches', feedback', uncovered⟩ := Narration.uncovered_mem_issues_iff.1 warned
    obtain rfl : sc = sc' := List.inj_on_of_nodup_map s.nodup_names mem mem' same
    rw [feedback] at feedback'
    cases feedback'
    exact uncovered
  · intro uncovered
    exact ⟨sc, mem, Narration.uncovered_mem_issues_iff.2 ⟨rfl, branches, feedback, uncovered⟩⟩

end Script

namespace Scene

variable {sc : Scene} {branches : List Branch} {branch : Branch} {verdict : Option Verdict}
  {summary : Tally}

/-- The lines of a feedback scene are those of its branch. -/
theorem linesFor_of_feedback (feedback : sc.narration = .feedback branches)
    (verdict : Option Verdict) (summary : Tally) :
    sc.linesFor verdict summary = ((sc.branch? verdict summary).map (·.lines)).getD [] := by
  simp only [linesFor, branch?, feedback]
  generalize branches.find? _ = found
  cases found <;> rfl

theorem branch?_eq_none_iff (feedback : sc.narration = .feedback branches) :
    sc.branch? verdict summary = none ↔
      ¬Narration.covers branches (verdict.getD .notGuilty) summary.allCorrect := by
  simp [branch?, feedback, Narration.covers]

/-- It is the first branch that fits. -/
theorem branch?_eq_some_iff (feedback : sc.narration = .feedback branches) :
    sc.branch? verdict summary = some branch ↔ ∃ before after, branches = before ++ branch :: after ∧
      branch.Fits verdict summary ∧ ∀ other ∈ before, ¬other.Fits verdict summary := by
  have fits : ∀ b : Branch, (b.verdict = verdict.getD .notGuilty && b.allCorrect == summary.allCorrect) ↔
      b.Fits verdict summary := by
    simp [Branch.Fits]
  simp only [branch?, feedback, List.find?_eq_some_iff_append, Bool.not_eq_true', ← Bool.not_eq_true,
    fits]
  constructor
  · rintro ⟨here, before, after, split, earlier⟩
    exact ⟨before, after, split, here, earlier⟩
  · rintro ⟨before, after, split, here, earlier⟩
    exact ⟨here, before, after, split, earlier⟩

end Scene

/-- For a feedback scene of a script there is a warning about a case exactly if for no counts of that
case it has a branch to say. Without such warnings it has one whatever the verdict, given or not, and the
counts. The branch is the first that fits, and its lines are the lines of the scene. -/
theorem Script.coverage_of_issues (s : Script) (sc : Scene) (branches : List Branch)
    (mem : sc ∈ s.scenes) (feedback : sc.narration = .feedback branches) :
    (∀ v allCorrect, .uncovered sc.name v allCorrect ∈ s.issues ↔
      ∀ summary : Tally, summary.allCorrect = allCorrect → sc.branch? (some v) summary = none) ∧
    ((∀ v allCorrect, .uncovered sc.name v allCorrect ∉ s.issues) →
      ∀ verdict summary, ∃ branch, sc.branch? verdict summary = some branch) ∧
    (∀ verdict summary branch, sc.branch? verdict summary = some branch ↔
      ∃ before after, branches = before ++ branch :: after ∧ branch.Fits verdict summary ∧
        ∀ other ∈ before, ¬other.Fits verdict summary) ∧
    ∀ verdict summary, sc.linesFor verdict summary =
      ((sc.branch? verdict summary).map (·.lines)).getD [] := by
  refine ⟨?_, ?_, fun _ _ _ => Scene.branch?_eq_some_iff feedback,
    Scene.linesFor_of_feedback feedback⟩
  · intro v allCorrect
    rw [uncovered_name_mem_issues_iff mem feedback]
    constructor
    · rintro uncovered summary rfl
      exact (Scene.branch?_eq_none_iff feedback).2 uncovered
    · -- Some counts have to be of this case, or there would be nothing to miss a branch.
      intro silent
      obtain ⟨summary, rfl⟩ := Tally.exists_allCorrect_eq allCorrect
      exact (Scene.branch?_eq_none_iff feedback).1 (silent summary rfl)
  · intro quiet verdict summary
    rw [← Option.isSome_iff_exists, Option.isSome_iff_ne_none]
    intro silent
    have uncovered := (Scene.branch?_eq_none_iff feedback).1 silent
    exact quiet _ _ ((uncovered_name_mem_issues_iff mem feedback).2 uncovered)

namespace Lopsided

/-- A scene with branches for two cases only, one of them twice. -/
def aside : Scene := ⟨"aside", 0, .feedback [⟨.notGuilty, false, [⟨[.literal "A pity."]⟩]⟩,
  ⟨.notGuilty, false, []⟩, ⟨.guilty, true, []⟩], .proceed "ruling"⟩

def ruling : Scene := ⟨"ruling", 0, .feedback [⟨.guilty, true, []⟩, ⟨.guilty, false, []⟩,
  ⟨.notGuilty, true, []⟩, ⟨.notGuilty, false, []⟩], .close⟩

def script : Script where
  title := "Lopsided"
  suspect := "Flora Jasmine"
  start := "aside"
  scenes := [aside, ruling]
  nodup_names := by decide

/-- There is a warning about the first scene, which still speaks before the verdict. There is none about
the second, which always has a branch. -/
theorem coverage_of_aside : aside ∈ script.scenes ∧ ruling ∈ script.scenes ∧
    .uncovered "aside" .guilty false ∈ script.issues ∧
    aside.linesFor none {} = [⟨[.literal "A pity."]⟩] ∧
    (∀ v allCorrect, .uncovered "ruling" v allCorrect ∉ script.issues) ∧
    ∀ verdict summary, ∃ branch, ruling.branch? verdict summary = some branch := by
  have here : aside ∈ script.scenes := by decide
  have there : ruling ∈ script.scenes := by decide
  obtain ⟨warned, -, first, said⟩ := script.coverage_of_issues aside _ here rfl
  obtain ⟨-, always, -⟩ := script.coverage_of_issues ruling _ there rfl
  have quiet : ∀ v allCorrect, .uncovered "ruling" v allCorrect ∉ script.issues := by
    refine fun v allCorrect missing => (Script.uncovered_name_mem_issues_iff there rfl).1 missing ?_
    cases v <;> cases allCorrect <;> decide
  refine ⟨here, there, (warned .guilty false).2 ?_, ?_, quiet, always quiet⟩
  · rintro summary wrong
    simp [Scene.branch?, aside, wrong]
  · rw [said, (first none {} _).2 ⟨[], _, rfl, ⟨rfl, rfl⟩, by simp⟩]
    rfl

end Lopsided

end Inquest
