import Inquest.Script.Draft
/-!
# Script files

Scripts written in the object notation. Of two scenes with one name the later counts.
-/

namespace Inquest

/-- The entries whose name does not occur again after them. -/
def keepLast {α : Type} : List (String × α) → List (String × α)
  | [] => []
  | e :: es => if e.1 ∈ es.map (·.1) then keepLast es else e :: keepLast es

theorem keepLast_subset {α : Type} (es : List (String × α)) : keepLast es ⊆ es := by
  induction es with
  | nil => simp [keepLast]
  | cons e es ih =>
    unfold keepLast
    split
    · exact List.subset_cons_of_subset _ ih
    · exact List.cons_subset_cons _ ih

theorem nodup_keepLast {α : Type} (es : List (String × α)) :
    ((keepLast es).map (·.1)).Nodup := by
  induction es with
  | nil => simp [keepLast]
  | cons e es ih =>
    unfold keepLast
    split
    · exact ih
    · rename_i h
      refine List.nodup_cons.2 ⟨fun hm => h ?_, ih⟩
      exact List.map_subset _ (keepLast_subset es) hm

def GateOption.decode (v : Ron.Value) : Option GateOption := do
  let fs ← v.fields? "ChoiceSpec" ["label", "value", "next"]
  return {
    label := ← fs.required "label" (·.text?)
    value := ← fs.required "value" (·.text?)
    next := ← fs.required "next" (·.text?) }

def Exit.decode : Ron.Value → Option Exit
  | .word "End" => some .close
  | .tuple (some "Continue") [.text next] => some (.proceed next)
  | .tuple (some "Choice") [v] => (v.list? GateOption.decode).map (.gate .choice)
  | .tuple (some "Verdict") [v] => (v.list? GateOption.decode).map (.gate .verdict)
  | _ => none

def Verdict.decode (v : Ron.Value) : Option Verdict :=
  v.word? [("Guilty", guilty), ("NotGuilty", notGuilty)]

def BranchDraft.decode (v : Ron.Value) : Option BranchDraft := do
  let fs ← v.fields? "RonFeedback" ["verdict", "all_correct", "lines"]
  return {
    verdict := ← fs.required "verdict" Verdict.decode
    allCorrect := ← fs.required "all_correct" (·.bool?)
    lines := ← fs.required "lines" (·.list? (·.text?)) }

def SceneDraft.decode (v : Ron.Value) : Option SceneDraft := do
  let fs ← v.fields? "RonScene" ["lead_in", "lines", "feedback", "exit"]
  return {
    leadIn := ← fs.optional "lead_in" 0 (·.millis?)
    lines := ← fs.optional "lines" [] (·.list? (·.text?))
    feedback := ← fs.optional "feedback" [] (·.list? BranchDraft.decode)
    exit := ← fs.required "exit" Exit.decode }

def ScriptDraft.decode (v : Ron.Value) : Option ScriptDraft := do
  let fs ← v.fields? "RonScript" ["title", "suspect", "start", "scenes"]
  let scenes ← fs.required "scenes" (·.map? SceneDraft.decode)
  return {
    title := ← fs.required "title" (·.text?)
    suspect := ← fs.required "suspect" (·.text?)
    start := ← fs.required "start" (·.text?)
    scenes := keepLast scenes
    nodup_names := nodup_keepLast scenes }

namespace Script

/-- Reads a script. It is not checked. -/
def parseWith (read : Ron.Reading ScriptDraft) (s : String) : Except ScriptError Script := do
  let draft ← (read s).mapError .ron
  draft.toScript

def parse : String → Except ScriptError Script := parseWith (Ron.parse fun _ => ScriptDraft.decode)

def ofFile (file : FileText) : Except ScriptError Script := do
  parse (← file.mapError .io)

end Script

end Inquest
