import Inquest.Millis
import Inquest.Template
/-!
# Scripts

The narrative of a case as a graph of named scenes. A scene waits for its lead-in, says its lines
and leaves through its exit. The names of a script's scenes are distinct, and that is part of the
type.
-/

namespace Inquest

/-- One answer the player can pick: what it says and the value it stands for. -/
structure Choice where
  label : String
  value : String
  deriving DecidableEq, Repr

/-- One option of a gate, and the scene it leads to. -/
structure GateOption extends Choice where
  next : String
  deriving DecidableEq, Repr

/-- What a gate asks for: any choice, or the verdict. -/
inductive GateKind where
  | choice
  | verdict
  deriving DecidableEq, Repr

inductive Exit where
  /-- Goes straight on to another scene. -/
  | proceed (next : String)
  /-- Waits for the player to pick an option. -/
  | gate (kind : GateKind) (options : List GateOption)
  /-- Ends the conversation. -/
  | close
  deriving DecidableEq, Repr

namespace Exit

def options : Exit → List GateOption
  | gate _ options => options
  | _ => []

/-- Every scene that an exit can lead to, in order and as often as it is named. -/
def targets : Exit → List String
  | proceed next => [next]
  | gate _ options => options.map (·.next)
  | close => []

end Exit

/-- Lines for one verdict and for whether every claim was judged right. -/
structure Branch where
  verdict : Verdict
  allCorrect : Bool
  lines : List Template
  deriving DecidableEq, Repr

inductive Narration where
  | lines (lines : List Template)
  | feedback (branches : List Branch)
  deriving DecidableEq, Repr

structure Scene where
  name : String
  leadIn : Millis
  narration : Narration
  exit : Exit
  deriving DecidableEq, Repr

namespace Scene

/-- The lines to say, given the verdict and the counts so far. Before the verdict a feedback scene
takes it to be not guilty; without a branch that fits it says nothing. -/
def linesFor (s : Scene) (verdict : Option Verdict) (summary : Tally) : List Template :=
  match s.narration with
  | .lines lines => lines
  | .feedback branches =>
    let verdict := verdict.getD .notGuilty
    match branches.find? fun b => b.verdict = verdict && b.allCorrect == summary.allCorrect with
    | some branch => branch.lines
    | none => []

end Scene

structure Script where
  title : String
  /-- The suspect whose summary the player judges. -/
  suspect : String
  start : String
  scenes : List Scene
  nodup_names : (scenes.map (·.name)).Nodup

namespace Script

def scene? (s : Script) (name : String) : Option Scene := s.scenes.find? (·.name = name)

def hasScene (s : Script) (name : String) : Bool := s.scenes.any (·.name = name)

/-- The scenes by name. Names are compared by code point. -/
def sortedScenes (s : Script) : List Scene :=
  s.scenes.mergeSort fun a b => a.name ≤ b.name

end Script

end Inquest
