import Inquest.Proofs.Script.Sound
import Mathlib.Logic.Relation
/-!
# Paths through a script

Exits join the scenes of a script to a graph. The search for reachable scenes finds exactly those to
which a path of exits leads from the start, and the warnings about the graph as a whole say what the
search has found.
-/

namespace Inquest.Script

variable {s : Script} {sc sc' : Scene} {name : String} {seen frontier : List String}

def Leads (s : Script) (sc sc' : Scene) : Prop :=
  ∃ next ∈ sc.exit.targets, s.scene? next = some sc'

/-- A path of exits leads from the start to the scene. -/
def Reaches (s : Script) (sc : Scene) : Prop :=
  ∃ first, s.scene? s.start = some first ∧ Relation.ReflTransGen s.Leads first sc

/-- The search for a name finds a scene under its own name. -/
theorem scene?_name (h : s.scene? name = some sc) : s.scene? sc.name = some sc :=
  scene?_of_mem (mem_of_scene? h).1

theorem Leads.known (h : s.Leads sc sc') : s.scene? sc'.name = some sc' := by
  obtain ⟨next, -, found⟩ := h
  exact scene?_name found

theorem Reaches.known (h : s.Reaches sc) : s.scene? sc.name = some sc := by
  obtain ⟨first, found, path⟩ := h
  cases path with
  | refl => exact scene?_name found
  | tail _ last => exact last.known

theorem Reaches.leads (h : s.Reaches sc) (next : s.Leads sc sc') : s.Reaches sc' := by
  obtain ⟨first, found, path⟩ := h
  exact ⟨first, found, path.tail next⟩

/-- How far a search has come: what it has seen and what it still has to visit can be reached, and
wherever an exit leads from what it has seen, it has been or will come. -/
structure Searched (s : Script) (seen frontier : List String) : Prop where
  found : ∀ name ∈ seen, ∃ sc, s.Reaches sc ∧ sc.name = name
  ahead : ∀ name ∈ frontier, ∀ sc, s.scene? name = some sc → s.Reaches sc
  start : ∀ first, s.scene? s.start = some first → first.name ∈ seen ∨ first.name ∈ frontier
  targets : ∀ sc, s.scene? sc.name = some sc → sc.name ∈ seen → ∀ sc', s.Leads sc sc' →
    sc'.name ∈ seen ∨ sc'.name ∈ frontier

theorem searched_start (s : Script) : s.Searched [] [s.start] where
  found := by simp
  ahead := by
    intro name mem sc found
    rw [List.mem_singleton.1 mem] at found
    exact ⟨sc, found, .refl⟩
  start := by
    intro first found
    right
    rw [(mem_of_scene? found).2]
    exact List.mem_singleton_self _
  targets := by simp

/-- A name under which there is nothing new to see may be dropped. -/
theorem Searched.drop (h : s.Searched seen (name :: frontier))
    (done : ∀ sc, s.scene? name = some sc → sc.name ∈ seen) : s.Searched seen frontier := by
  have settled : ∀ sc, s.scene? sc.name = some sc → sc.name ∈ seen ∨ sc.name ∈ name :: frontier →
      sc.name ∈ seen ∨ sc.name ∈ frontier := by
    intro sc known place
    rcases place with old | place
    · exact .inl old
    · rcases List.mem_cons.1 place with here | later
      · exact .inl (done sc (here ▸ known))
      · exact .inr later
  constructor
  · exact h.found
  · intro next mem
    exact h.ahead next (List.mem_cons_of_mem _ mem)
  · intro first found
    exact settled first (scene?_name found) (h.start first found)
  · intro sc known mem sc' next
    exact settled sc' next.known (h.targets sc known mem sc' next)

/-- A scene that is visited has been seen, and its exits are to be visited. -/
theorem Searched.visit (h : s.Searched seen (name :: frontier)) (found : s.scene? name = some sc) :
    s.Searched (sc.name :: seen) (frontier ++ sc.exit.targets) := by
  have reached : s.Reaches sc := h.ahead name List.mem_cons_self sc found
  have here : sc.name = name := (mem_of_scene? found).2
  have settled : ∀ other : Scene, other.name ∈ seen ∨ other.name ∈ name :: frontier →
      other.name ∈ sc.name :: seen ∨ other.name ∈ frontier ++ sc.exit.targets := by
    intro other place
    rw [← here] at place
    simp only [List.mem_cons, List.mem_append] at place ⊢
    tauto
  constructor
  · intro other mem
    rcases List.mem_cons.1 mem with rfl | old
    · exact ⟨sc, reached, rfl⟩
    · exact h.found other old
  · intro other mem sc' found'
    rcases List.mem_append.1 mem with later | target
    · exact h.ahead other (List.mem_cons_of_mem _ later) sc' found'
    · exact reached.leads ⟨other, target, found'⟩
  · intro first found'
    exact settled first (h.start first found')
  · intro sc₁ known mem sc₂ next
    rcases List.mem_cons.1 mem with same | old
    · -- Scenes are told apart by their names, so this is the scene that is visited.
      rw [same, here, found] at known
      obtain rfl : sc = sc₁ := Option.some.inj known
      obtain ⟨target, mem, found₂⟩ := next
      right
      rw [(mem_of_scene? found₂).2]
      exact List.mem_append_right _ mem
    · exact settled sc₂ (h.targets sc₁ known old sc₂ next)

/-- The search ends with nothing left to visit. -/
theorem Searched.explore (h : s.Searched seen frontier) :
    s.Searched (s.explore seen frontier) [] := by
  fun_induction Script.explore s seen frontier with
  | case1 => exact h
  | case2 seen name rest missing ih =>
    apply ih
    apply h.drop
    intro sc found
    rw [missing] at found
    cases found
  | case3 seen name rest sc found old ih =>
    apply ih
    apply h.drop
    intro sc' found'
    rw [found] at found'
    cases found'
    exact old
  | case4 seen name rest sc found fresh ih =>
    apply ih
    exact h.visit found

/-- The search finds exactly the names of the scenes to which a path leads from the start. -/
theorem mem_reachable_iff : name ∈ s.reachable ↔ ∃ sc, s.Reaches sc ∧ sc.name = name := by
  have searched : s.Searched s.reachable [] := (searched_start s).explore
  constructor
  · exact searched.found name
  · rintro ⟨sc, ⟨first, found, path⟩, rfl⟩
    have known : ∀ {sc}, Relation.ReflTransGen s.Leads first sc → s.scene? sc.name = some sc :=
      fun path => Reaches.known ⟨first, found, path⟩
    induction path with
    | refl => simpa using searched.start first found
    | tail before next ih => simpa using searched.targets _ (known before) ih _ next

/-- A scene can be reached exactly if the search finds its name. -/
theorem name_mem_reachable_iff (h : sc ∈ s.scenes) : sc.name ∈ s.reachable ↔ s.Reaches sc := by
  rw [mem_reachable_iff]
  constructor
  · rintro ⟨sc', reached, name⟩
    have known := reached.known
    rw [name, scene?_of_mem h] at known
    obtain rfl : sc = sc' := Option.some.inj known
    exact reached
  · intro reached
    exact ⟨sc, reached, rfl⟩

/-- No issue of a single scene is about the graph as a whole. -/
theorem not_mem_scene_issues {i : Issue} (h : i ∈ sc.issues s) :
    (∀ name start, i ≠ .unreachable name start) ∧ i ≠ .noEnding := by
  rcases List.mem_append.1 h with exit | narration
  · have error := Exit.isError_of_mem_issues exit
    constructor
    · rintro name start rfl
      cases error
    · rintro rfl
      cases error
  · cases hn : sc.narration with
    | lines => simp [hn, Narration.issues] at narration
    | feedback branches =>
      rw [hn] at narration
      obtain ⟨_, _, rfl⟩ := List.mem_map.1 narration
      simp

/-- The warning that a scene is unreachable is given exactly if no path leads to the scene. -/
theorem unreachable_mem_issues_iff (h : sc ∈ s.scenes) :
    .unreachable sc.name s.start ∈ s.issues ↔ ¬s.Reaches sc := by
  rw [← name_mem_reachable_iff h]
  simp only [issues, List.mem_append, List.mem_flatMap]
  constructor
  · rintro (((start | ⟨sc', -, scene⟩) | graph) | ending)
    · split at start <;> simp at start
    · exact absurd rfl ((not_mem_scene_issues scene).1 _ _)
    · obtain ⟨sc', mem, same⟩ := List.mem_map.1 graph
      have name : sc'.name = sc.name := (Issue.unreachable.inj same).1
      rw [← name]
      simpa using (List.mem_filter.1 mem).2
    · split at ending <;> simp at ending
  · intro missing
    refine .inl (.inr (List.mem_map.2 ⟨sc, List.mem_filter.2 ⟨mem_sortedScenes.2 h, ?_⟩, rfl⟩))
    simpa using missing

/-- The warning that there is no ending is given exactly if no path leads to a closing exit. -/
theorem noEnding_mem_issues_iff :
    .noEnding ∈ s.issues ↔ ∀ sc, s.Reaches sc → sc.exit ≠ .close := by
  have ending : (s.sortedScenes.any fun sc => s.reachable.contains sc.name && sc.exit == .close) =
      true ↔ ∃ sc, s.Reaches sc ∧ sc.exit = .close := by
    simp only [List.any_eq_true, Bool.and_eq_true, List.contains_iff_mem, beq_iff_eq]
    constructor
    · rintro ⟨sc, mem, found, exit⟩
      exact ⟨sc, (name_mem_reachable_iff (mem_sortedScenes.1 mem)).1 found, exit⟩
    · rintro ⟨sc, reached, exit⟩
      have mem : sc ∈ s.scenes := (mem_of_scene? reached.known).1
      exact ⟨sc, mem_sortedScenes.2 mem, (name_mem_reachable_iff mem).2 reached, exit⟩
  simp only [issues, List.mem_append, List.mem_flatMap]
  constructor
  · rintro (((start | ⟨sc', -, scene⟩) | graph) | missing)
    · split at start <;> simp at start
    · exact absurd rfl (not_mem_scene_issues scene).2
    · obtain ⟨sc', -, same⟩ := List.mem_map.1 graph
      cases same
    · intro sc reached exit
      rw [if_pos (ending.2 ⟨sc, reached, exit⟩)] at missing
      cases missing
  · intro open_ended
    right
    rw [if_neg]
    · exact List.mem_singleton_self _
    · intro closes
      obtain ⟨sc, reached, exit⟩ := ending.1 closes
      exact open_ended sc reached exit

end Inquest.Script
