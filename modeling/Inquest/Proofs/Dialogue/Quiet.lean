import Inquest.Proofs.Dialogue.Progress
/-!
# Stages on which all is said

Before the player's next choice a stage plays the rest of the current scene and the scenes that follow
it without the player. Where none of these says or asks anything, no turn adds a line.
-/

namespace Inquest

/-- The exit of the scene asks for a decision. -/
def Scene.Asks (sc : Scene) : Prop := ∃ kind options, sc.exit = .gate kind options

namespace Stage

/-- The scene passes unnoticed: it says nothing and asks for nothing. -/
structure Mute (s : Stage) (sc : Scene) : Prop where
  silent : Narrator.spoken (s.linesOf sc) = []
  noGate : ¬sc.Asks

/-- Nothing is left to say or to ask before the player's next choice. -/
def AllSaid (s : Stage) : Mode → Prop
  | .leadIn sc _ => ∀ sc', Relation.ReflTransGen s.walk.script.Proceeds sc sc' → s.Mute sc'
  | .pause sc _ rest => rest = [] ∧ ¬sc.Asks ∧
    ∀ sc', Relation.TransGen s.walk.script.Proceeds sc sc' → s.Mute sc'
  | .closed _ => True
  | _ => False

variable {s t u : Stage} {m m' : Mode} {sc : Scene}

theorem Mute.of_ruling (h : s.Mute sc) (ruling : t.hearing.ruling = s.hearing.ruling)
    (suspect : t.walk.suspect = s.walk.suspect) : t.Mute sc where
  silent := by
    rw [linesOf_of_ruling ruling suspect]
    exact h.silent
  noGate := h.noGate

theorem AllSaid.of_ruling (h : s.AllSaid m) (script : t.walk.script = s.walk.script)
    (ruling : t.hearing.ruling = s.hearing.ruling) (suspect : t.walk.suspect = s.walk.suspect) :
    t.AllSaid m := by
  cases m with
  | leadIn sc due =>
    intro sc' path
    rw [script] at path
    exact (h sc' path).of_ruling ruling suspect
  | pause sc due rest =>
    obtain ⟨none, noGate, mutes⟩ := h
    refine ⟨none, noGate, fun sc' path => ?_⟩
    rw [script] at path
    exact (mutes sc' path).of_ruling ruling suspect
  | unstarted | typing | asking | closed => exact h

/-- A scene from which no exit asks and after which nothing follows is left for nothing more. -/
theorem Leaves.allSaid (h : s.Leaves sc m t) (noGate : ¬sc.Asks)
    (mutes : ∀ sc', Relation.TransGen s.walk.script.Proceeds sc sc' → s.Mute sc') : s.AllSaid m := by
  cases h with
  | @proceed next sc' exit found =>
    intro sc'' path
    exact mutes sc'' (.head' ⟨next, exit, found⟩ path)
  | ask exit => exact absurd ⟨_, _, exit⟩ noGate
  | close => trivial

theorem Leaves.history_eq (h : s.Leaves sc m t) :
    t.hearing.narrator.history = s.hearing.narrator.history := by
  cases h <;> rfl

/-- Where all is said, a turn says nothing, and then all is said still. -/
theorem Turn.allSaid (h : s.Turn m m' t) (all : s.AllSaid m) :
    t.AllSaid m' ∧ t.hearing.narrator.history = s.hearing.narrator.history := by
  have same := h.sameCase
  have goes_on : s.AllSaid m' ∧ t.hearing.narrator.history = s.hearing.narrator.history := by
    cases h with
    | @begin sc due line rest lines =>
      have silent := (all sc .refl).silent
      rw [lines] at silent
      cases silent
    | reveal => exact absurd all id
    | goOn => cases all.1
    | leave hushed leaves =>
      have history := leaves.history_eq
      cases hushed with
      | silent =>
        have passed := leaves.allSaid (all _ .refl).noGate fun sc' path =>
          (all sc' path.to_reflTransGen).of_ruling rfl rfl
        exact ⟨passed.of_ruling rfl rfl rfl, history⟩
      | drained =>
        obtain ⟨-, noGate, mutes⟩ := all
        have passed := leaves.allSaid noGate fun sc' path => (mutes sc' path).of_ruling rfl rfl
        exact ⟨passed.of_ruling rfl rfl rfl, history⟩
  exact ⟨goes_on.1.of_ruling same.script same.ruling same.suspect, goes_on.2⟩

/-- When a lead-in is over a line is typed, or there is none and the scene is left. -/
theorem Turn.of_leadIn {due : Millis} (h : s.Turn (.leadIn sc due) m t) :
    t.hearing.narrator.history = s.hearing.narrator.history ∧
      ((∃ due' line rest, m = .typing sc due' line rest) ∨ Narrator.spoken (s.linesOf sc) = [] ∧
        ∃ u : Stage, u.walk.script = s.walk.script ∧ u.Leaves sc m t) := by
  cases h with
  | begin => exact ⟨rfl, .inl ⟨_, _, _, rfl⟩⟩
  | leave hushed leaves =>
    cases hushed with
    | silent lines => exact ⟨leaves.history_eq, .inr ⟨lines, s.wake due, rfl, leaves⟩⟩

/-- When the last pause is over the scene is left. -/
theorem Turn.of_pause {due : Millis} (h : s.Turn (.pause sc due []) m t) :
    t.hearing.narrator.history = s.hearing.narrator.history ∧
      ∃ u : Stage, u.walk.script = s.walk.script ∧ u.Leaves sc m t := by
  cases h with
  | leave hushed leaves =>
    cases hushed with
    | drained =>
      refine ⟨leaves.history_eq, _, ?_, leaves⟩
      rfl

/-- A scene that asks leaves for the question. -/
theorem Leaves.eq_of_asks (h : s.Leaves sc m t) (asks : sc.Asks) : ∃ number, m = .asking sc number := by
  obtain ⟨kind, options, exit⟩ := asks
  cases h with
  | ask => exact ⟨_, rfl⟩
  | proceed exit' | close exit' =>
    rw [exit] at exit'
    cases exit'

end Stage

end Inquest
