import Inquest.Script.Reach
/-!
# Issues of a script

What an author may have got wrong. Errors keep a script from being played; warnings do not. Issues
are listed scene by scene in the order of names, and those about the whole graph come at the end.
-/

namespace Inquest

inductive Severity where
  | warning
  | error
  deriving DecidableEq, Repr

def Severity.name : Severity → String
  | warning => "Warning"
  | error => "Error"

inductive Issue where
  | missingStart (start : String)
  | danglingTarget (scene target : String)
  | emptyGate (scene : String)
  | repeatedValue (scene value : String)
  | badVerdict (scene value : String)
  | uncovered (scene : String) (verdict : Verdict) (allCorrect : Bool)
  | unreachable (scene start : String)
  | noEnding
  deriving DecidableEq, Repr

namespace Issue

def severity : Issue → Severity
  | uncovered .. | unreachable .. | noEnding => .warning
  | _ => .error

def isError (i : Issue) : Bool := i.severity = .error

def message : Issue → String
  | missingStart start => "start scene '" ++ start ++ "' does not exist"
  | danglingTarget scene target =>
    "scene '" ++ scene ++ "' leads to non-existent scene '" ++ target ++ "'"
  | emptyGate scene => "scene '" ++ scene ++ "' has a gate with no options"
  | repeatedValue scene value =>
    "scene '" ++ scene ++ "' offers value '" ++ value ++ "' more than once"
  | badVerdict scene value =>
    "scene '" ++ scene ++ "' has verdict option '" ++ value
      ++ "' (expected 'guilty' or 'not-guilty')"
  | uncovered scene verdict allCorrect =>
    "feedback scene '" ++ scene ++ "' has no branch for verdict '" ++ verdict.word
      ++ "' with all_correct = " ++ (if allCorrect then "true" else "false")
  | unreachable scene start => "scene '" ++ scene ++ "' is unreachable from '" ++ start ++ "'"
  | noEnding => "no reachable scene ends the conversation"

end Issue

/-- The elements that occur before, each as often as it does so; `seen` is what came before. -/
def repeats (seen : List String) : List String → List String
  | [] => []
  | x :: xs => if x ∈ seen then x :: repeats seen xs else repeats (x :: seen) xs

namespace Exit

/-- What is wrong with an exit of the scene `scene` of the script `s`. -/
def issues (e : Exit) (s : Script) (scene : String) : List Issue :=
  (e.targets.filter (!s.hasScene ·)).map (.danglingTarget scene) ++
  match e with
  | gate kind options =>
    (if options.isEmpty then [.emptyGate scene] else []) ++
    (repeats [] (options.map (·.value))).map (.repeatedValue scene) ++
    match kind with
    | .choice => []
    | .verdict =>
      ((options.map (·.value)).filter (Verdict.ofWord? · |>.isNone)).map (.badVerdict scene)
  | _ => []

end Exit

namespace Narration

/-- The cases that feedback has to cover. -/
def cases : List (Verdict × Bool) :=
  [(.guilty, true), (.guilty, false), (.notGuilty, true), (.notGuilty, false)]

/-- Whether some branch is for the verdict and for whether all was correct. -/
def covers (branches : List Branch) (verdict : Verdict) (allCorrect : Bool) : Bool :=
  branches.any fun b => b.verdict = verdict && b.allCorrect == allCorrect

def issues (n : Narration) (scene : String) : List Issue :=
  match n with
  | lines _ => []
  | feedback branches =>
    (cases.filter fun c => !covers branches c.1 c.2).map fun c => .uncovered scene c.1 c.2

end Narration

def Scene.issues (sc : Scene) (s : Script) : List Issue :=
  sc.exit.issues s sc.name ++ sc.narration.issues sc.name

namespace Script

def issues (s : Script) : List Issue :=
  let scenes := s.sortedScenes
  let reached := s.reachable
  (if s.hasScene s.start then [] else [.missingStart s.start]) ++
  scenes.flatMap (·.issues s) ++
  (scenes.filter (!reached.contains ·.name)).map (.unreachable ·.name s.start) ++
  if scenes.any fun sc => reached.contains sc.name && sc.exit == .close then [] else [.noEnding]

def errors (s : Script) : List Issue := s.issues.filter (·.isError)

end Script

end Inquest
