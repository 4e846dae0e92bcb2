import Inquest.Dialogue.Stage
import Inquest.Proofs.Script.Sound
/-!
# Modes of a stage

A stage that is played through a sound script does one thing at a time: it waits for one task, or
for the player, or for nothing more. A mode says which, and fixes every part of the stage on which
the next step depends.
-/

namespace Inquest

/-- The parts of a stage that say what comes next. Those of a new stage are the default. -/
structure Control where
  pending : List Timer := []
  queue : List String := []
  busy : Bool := false
  typing : Bool := false
  awaiting : Option String := none
  shown : Option Decision := none
  held : Option Decision := none
  closed : Bool := false
  deriving DecidableEq, Repr

def Stage.control (s : Stage) : Control where
  pending := s.agenda.pending
  queue := s.hearing.narrator.queue
  busy := s.hearing.narrator.busy
  typing := s.hearing.narrator.typing
  awaiting := s.walk.awaiting
  shown := s.hearing.shown
  held := s.hearing.held
  closed := s.walk.closed

inductive Mode where
  | unstarted
  /-- The lead-in of the scene lasts until `due`. -/
  | leadIn (scene : Scene) (due : Millis)
  /-- The line of the scene is typed until `due`; the rest of its lines follow. -/
  | typing (scene : Scene) (due : Millis) (line : String) (rest : List String)
  /-- The pause after a line of the scene lasts until `due`; the rest of its lines follow. -/
  | pause (scene : Scene) (due : Millis) (rest : List String)
  /-- The gate of the scene has asked for a decision. -/
  | asking (scene : Scene) (number : Nat)
  /-- The scene has ended the walk. -/
  | closed (scene : Scene)
  deriving DecidableEq, Repr

namespace Mode

def scene? : Mode → Option Scene
  | unstarted => none
  | leadIn sc _ | typing sc .. | pause sc .. | asking sc _ | closed sc => some sc

def decision (sc : Scene) (number : Nat) : Decision :=
  ⟨number, sc.name, sc.exit.options.map (·.toChoice)⟩

/-- The control in each mode. What is not named is absent, so there is at most one task, and none
beside a decision or after the end. -/
def control : Mode → Control
  | unstarted => {}
  | leadIn sc due => { pending := [⟨due, .narrate sc.name⟩] }
  | typing sc due line rest =>
    { pending := [⟨due, .reveal⟩], queue := line :: rest, busy := true, typing := true,
      awaiting := some sc.name }
  | pause sc due rest =>
    { pending := [⟨due, .resume⟩], queue := rest, busy := true, awaiting := some sc.name }
  | asking sc number => { shown := some (decision sc number) }
  | closed _ => { closed := true }

/-- The player is asked only at a gate that has options, and the walk ends only at a closing exit.
-/
def ExitFits : Mode → Prop
  | asking sc _ => ∃ kind options, sc.exit = .gate kind options ∧ options ≠ []
  | closed sc => sc.exit = .close
  | _ => True

end Mode

/-- The stage is in the mode: its control is that of the mode, and the scene of the mode is the
current one and a scene of the script. -/
structure Stage.In (s : Stage) (m : Mode) : Prop where
  control : s.control = m.control
  scene : s.hearing.scene = m.scene?.map (·.name)
  known : ∀ sc, m.scene? = some sc → s.walk.script.scene? sc.name = some sc
  exit : m.ExitFits

/-- A stage is in at most one mode. -/
theorem Stage.In.unique {s : Stage} {m m' : Mode} (h : s.In m) (h' : s.In m') : m = m' := by
  have control : m.control = m'.control := h.control.symm.trans h'.control
  have name : m.scene?.map (·.name) = m'.scene?.map (·.name) := h.scene.symm.trans h'.scene
  have scene : m.scene? = m'.scene? := by
    cases hm : m.scene? with
    | none =>
      rw [hm] at name
      exact (Option.map_eq_none_iff.1 name.symm).symm
    | some sc =>
      cases hm' : m'.scene? with
      | none => simp [hm, hm'] at name
      | some sc' =>
        have known := h.known sc hm
        rw [show sc.name = sc'.name by simpa [hm, hm'] using name, h'.known sc' hm'] at known
        rw [known]
  cases m <;> cases m' <;> simp_all [Mode.control, Mode.scene?, Mode.decision]

end Inquest
