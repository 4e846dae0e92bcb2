/-!
# Verdicts

The player's judgment on the accusation and the words that stand for it in scripts.
-/

namespace Inquest

inductive Verdict where
  | guilty
  | notGuilty
  deriving DecidableEq, Repr, Inhabited

namespace Verdict

def name : Verdict → String
  | guilty => "Guilty"
  | notGuilty => "NotGuilty"

/-- The word for a verdict, as option values and lines use it. -/
def word : Verdict → String
  | guilty => "guilty"
  | notGuilty => "not-guilty"

/-- The verdict that a word stands for; the words are case-sensitive. -/
def ofWord? (s : String) : Option Verdict :=
  if s = "guilty" then some guilty
  else if s = "not-guilty" then some notGuilty
  else none

@[simp] theorem ofWord?_word (v : Verdict) : ofWord? v.word = some v := by cases v <;> rfl

theorem ofWord?_eq_some {s : String} {v : Verdict} : ofWord? s = some v ↔ s = v.word := by
  refine ⟨fun h => ?_, fun h => h ▸ ofWord?_word v⟩
  unfold ofWord? at h
  split at h
  · cases v <;> simp_all [word]
  · split at h
    · cases v <;> simp_all [word]
    · simp at h

end Verdict

end Inquest
