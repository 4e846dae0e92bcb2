import Inquest.Pacing
import Inquest.Script.Issue
/-!
# Drafts of scripts

A script as its author writes it, with lines as plain text. Turning a draft into a script reads the
lines as templates; a scene has either lines or feedback. Checking a script refuses it when it has
an issue that is an error.
-/

namespace Inquest

structure BranchDraft where
  verdict : Verdict
  allCorrect : Bool
  lines : List String
  deriving DecidableEq, Repr

/-- A scene as written, without its name. -/
structure SceneDraft where
  leadIn : Millis := 0
  lines : List String := []
  feedback : List BranchDraft := []
  exit : Exit
  deriving DecidableEq, Repr

/-- A script as written. The names of its scenes are distinct. -/
structure ScriptDraft where
  title : String
  suspect : String
  start : String
  scenes : List (String × SceneDraft)
  nodup_names : (scenes.map (·.1)).Nodup
  deriving DecidableEq

inductive ScriptError where
  | io (detail : String)
  | ron (cause : Ron.Error)
  | template (scene : String) (cause : TemplateError)
  | linesAndFeedback (scene : String)
  | faulty (issues : List Issue)
  deriving DecidableEq, Repr

def ScriptError.message : ScriptError → String
  | io detail => ioMessage detail
  | ron cause => cause.message
  | template scene cause => "template error in scene '" ++ scene ++ "': " ++ cause.message
  | linesAndFeedback scene =>
    "invalid script: scene '" ++ scene ++ "' has both lines and feedback branches"
  | faulty issues => "invalid script: " ++ "; ".intercalate (issues.map (·.message))

def parseLines (scene : String) (lines : List String) : Except ScriptError (List Template) :=
  lines.mapM fun line => (Template.parse line).mapError (.template scene)

namespace SceneDraft

def narration (d : SceneDraft) (name : String) : Except ScriptError Narration :=
  if d.feedback.isEmpty then (parseLines name d.lines).map .lines
  else if !d.lines.isEmpty then .error (.linesAndFeedback name)
  else (d.feedback.mapM fun b =>
    (parseLines name b.lines).map (Branch.mk b.verdict b.allCorrect)).map .feedback

def toScene (d : SceneDraft) (name : String) : Except ScriptError Scene :=
  (d.narration name).map fun n => ⟨name, d.leadIn, n, d.exit⟩

theorem name_of_toScene {d : SceneDraft} {name : String} {sc : Scene}
    (h : d.toScene name = .ok sc) : sc.name = name := by
  unfold toScene at h
  cases hn : d.narration name <;> rw [hn] at h <;> cases h
  rfl

end SceneDraft

/-- The scenes of a list of drafts, up to the first that is at fault. -/
def scenesOf : List (String × SceneDraft) → Except ScriptError (List Scene)
  | [] => .ok []
  | (name, d) :: rest => do
    let sc ← d.toScene name
    let scs ← scenesOf rest
    return sc :: scs

theorem names_of_scenesOf {ds : List (String × SceneDraft)} {scs : List Scene}
    (h : scenesOf ds = .ok scs) : scs.map (·.name) = ds.map (·.1) := by
  induction ds generalizing scs with
  | nil => cases h; rfl
  | cons d ds ih =>
    obtain ⟨name, d⟩ := d
    simp only [scenesOf] at h
    cases hs : d.toScene name with
    | error e => rw [hs] at h; cases h
    | ok sc =>
      cases hr : scenesOf ds with
      | error e => rw [hs, hr] at h; cases h
      | ok rest =>
        rw [hs, hr] at h
        cases h
        simp [SceneDraft.name_of_toScene hs, ih hr]

def ScriptDraft.toScript (d : ScriptDraft) : Except ScriptError Script :=
  match h : scenesOf d.scenes with
  | .error e => .error e
  | .ok scenes => .ok ⟨d.title, d.suspect, d.start, scenes, names_of_scenesOf h ▸ d.nodup_names⟩

def Script.check (s : Script) : Except ScriptError Unit :=
  if s.errors.isEmpty then .ok () else .error (.faulty s.errors)

end Inquest
