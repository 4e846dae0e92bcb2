import Inquest.Proofs.Dialogue.Reply
/-!
# Behind the scenes

The answers, the marks and the gradings are behind the scenes of a dialogue. Nothing that is said
depends on them, but for the verdict and the counts that are recorded with it: a stage on which they
are exchanged, and which has the same verdict and counts, makes the same turns.
-/

namespace Inquest

structure Backstage where
  store : AnswerStore
  marks : Marks
  ruling : Option Ruling

/-- What of it can be heard: the verdict, and the counts recorded with it. -/
def Backstage.outcome (b : Backstage) : Option (Verdict × Tally) :=
  b.ruling.map fun r => (r.verdict, r.report.summary)

theorem Backstage.outcome_eq_none {b : Backstage} : b.outcome = none ↔ b.ruling = none := by
  simp [outcome]

namespace Stage

def backstage (s : Stage) : Backstage := ⟨s.walk.store, s.hearing.marks, s.hearing.ruling⟩

def swap (s : Stage) (b : Backstage) : Stage :=
  { s with walk.store := b.store, hearing.marks := b.marks, hearing.ruling := b.ruling }

variable {s t u : Stage} {b : Backstage} {m m' : Mode} {sc : Scene}

@[simp] theorem backstage_swap : (s.swap b).backstage = b := rfl
@[simp] theorem swap_backstage : s.swap s.backstage = s := rfl
@[simp] theorem swap_swap (b' : Backstage) : (s.swap b').swap b = s.swap b := rfl

/-- The verdict can be heard. -/
theorem verdict?_of_outcome_eq (same : b.outcome = s.backstage.outcome) :
    b.ruling.map (·.verdict) = s.hearing.verdict? := by
  have heard := congrArg (Option.map (·.1)) same
  simpa [Backstage.outcome, backstage, Hearing.verdict?, Function.comp_def] using heard

theorem scope_eq : s.scope = ⟨(s.backstage.outcome.map (·.2)).getD {}, s.walk.suspect,
    s.backstage.outcome.map (·.1)⟩ := by
  simp [scope, backstage, Backstage.outcome, Hearing.accuracy?, Hearing.verdict?,
    Function.comp_def]

/-- Lines are filled from the verdict and the counts, and from nothing else behind the scenes. -/
theorem linesOf_swap (same : b.outcome = s.backstage.outcome) :
    (s.swap b).linesOf sc = s.linesOf sc := by
  have scope : (s.swap b).scope = s.scope := by
    rw [scope_eq, scope_eq, backstage_swap, same]
    rfl
  rw [linesOf, linesOf, scope]

theorem In.swap (h : s.In m) : (s.swap b).In m := ⟨h.control, h.scene, h.known, h.exit⟩

theorem Hushed.swap (h : s.Hushed m sc t) (same : b.outcome = s.backstage.outcome) :
    (s.swap b).Hushed m sc (t.swap b) := by
  cases h with
  | silent lines => exact .silent (by rw [linesOf_swap same]; exact lines)
  | drained => exact .drained

theorem Leaves.swap (h : s.Leaves sc m t) : (s.swap b).Leaves sc m (t.swap b) := by
  cases h with
  | proceed exit found => exact .proceed exit found
  | ask exit => exact .ask exit
  | close exit => exact .close exit

/-- The same turn is made whatever is behind the scenes. -/
theorem Turn.swap (h : s.Turn m m' t) (same : b.outcome = s.backstage.outcome) :
    (s.swap b).Turn m m' (t.swap b) := by
  cases h with
  | begin lines => exact .begin (by rw [linesOf_swap same]; exact lines)
  | reveal => exact .reveal
  | goOn => exact .goOn
  | leave hushed leaves => exact .leave (hushed.swap same) leaves.swap

/-- No turn looks behind the scenes. -/
theorem Turn.backstage_eq (h : s.Turn m m' t) : t.backstage = s.backstage := by
  have same := h.sameCase
  simp only [backstage, same.store, same.marks, same.ruling]

/-- Handing a verdict over looks the same whatever is behind the scenes. -/
theorem deliver_swap (same : b.ruling.isSome = s.hearing.ruling.isSome) (v : Verdict) :
    (s.swap b).deliver v =
      (s.deliver v).swap ⟨b.store, b.marks, ((s.swap b).deliver v).hearing.ruling⟩ := by
  have ruling : (s.swap b).hearing.ruling = b.ruling := rfl
  cases hs : s.hearing.ruling with
  | none =>
    have hb : b.ruling = none := by simpa [hs] using same
    simp only [deliver, ruling, hs, hb, Option.isSome_none, Bool.false_eq_true, ↓reduceIte]
    rfl
  | some r =>
    have hb : b.ruling.isSome = true := by simpa [hs] using same
    simp only [deliver, ruling, hs, hb, ↓reduceIte]
    rfl

/-- What the player says is the same whatever is behind the scenes, and so is the verdict it gives.
-/
theorem accept_swap (same : b.outcome = s.backstage.outcome) (r : Reply) :
    ∃ ruling, (s.swap b).accept r = (s.accept r).swap ⟨b.store, b.marks, ruling⟩ ∧
      ruling.map (·.verdict) = (s.accept r).hearing.verdict? := by
  have verdict : b.ruling.map (·.verdict) = s.hearing.verdict? := verdict?_of_outcome_eq same
  have ruled : b.ruling.isSome = s.hearing.ruling.isSome := by
    simpa [Hearing.verdict?] using congrArg Option.isSome verdict
  refine ⟨((s.swap b).accept r).hearing.ruling, ?_, ?_⟩
  · rw [accept_eq, accept_eq]
    cases r.verdict with
    | none => rfl
    | some v =>
      have answered : (s.swap b).answered r = (s.answered r).swap b := rfl
      rw [Option.elim_some, Option.elim_some, answered]
      exact deliver_swap (s := s.answered r) ruled v
  · rw [Hearing.verdict?, ruling_accept, ruling_accept]
    show (b.ruling.or _).map _ = _
    rw [Option.map_or, Option.map_or, verdict, Hearing.verdict?]
    simp [Function.comp_def]

end Stage

end Inquest
