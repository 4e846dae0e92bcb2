import Inquest.Script.Basic
/-!
# Reachable scenes

The scenes of a script that can be reached from its start through exits.
-/

namespace Inquest.Script

def unseen (s : Script) (seen : List String) : List Scene :=
  s.scenes.filter fun sc => !seen.contains sc.name

theorem length_unseen_cons_lt {s : Script} {seen : List String} {sc : Scene}
    (h : sc ∈ s.scenes) (hs : sc.name ∉ seen) :
    (s.unseen (sc.name :: seen)).length < (s.unseen seen).length := by
  have hsub : s.unseen (sc.name :: seen) = (s.unseen seen).filter (·.name ≠ sc.name) := by
    simp only [unseen, List.filter_filter]
    congr 1
    funext x
    by_cases hx : x.name = sc.name <;> simp [hx]
  rw [hsub]
  refine List.length_filter_lt_length_iff_exists.2 ⟨sc, ?_, by simp⟩
  simp [unseen, h, hs]

theorem mem_of_scene? {s : Script} {name : String} {sc : Scene} (h : s.scene? name = some sc) :
    sc ∈ s.scenes ∧ sc.name = name :=
  ⟨List.mem_of_find?_eq_some h, by simpa using List.find?_some h⟩

/-- Goes through the names still to visit and adds each scene not seen before to those seen, and its
exits to the names to visit. Each turn sees one scene more, or leaves one name fewer. -/
def explore (s : Script) (seen : List String) : List String → List String
  | [] => seen
  | name :: rest =>
    match _h : s.scene? name with
    | none => explore s seen rest
    | some sc =>
      if _hs : sc.name ∈ seen then explore s seen rest
      else explore s (sc.name :: seen) (rest ++ sc.exit.targets)
  termination_by frontier => ((s.unseen seen).length, frontier.length)
  decreasing_by
    · exact Prod.Lex.right _ (by simp)
    · exact Prod.Lex.right _ (by simp)
    · exact Prod.Lex.left _ _ (length_unseen_cons_lt (mem_of_scene? _h).1 _hs)

def reachable (s : Script) : List String := s.explore [] [s.start]

end Inquest.Script
