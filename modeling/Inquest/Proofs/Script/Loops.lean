import Inquest.Proofs.Script.Paths
import Mathlib.Algebra.BigOperators.Group.Finset.Basic
import Mathlib.Algebra.GroupWithZero.Nat
import Mathlib.Algebra.Order.BigOperators.Group.Finset
import Mathlib.Data.List.Chain
/-!
# Loops of a script

A scene that goes straight on to another gives the player no say. Where such scenes go round, the
script never comes to rest; where they do not, all that lies ahead of a scene can be counted. The
count is of tasks: one for the lead-in of a scene, and two for each of its lines.
-/

namespace Inquest

/-- A round in which each element is related to the next, and the last to the first. -/
structure Circuit {α : Type} (r : α → α → Prop) (round : List α) : Prop where
  chain : round.IsChain r
  closes : ∃ first ∈ round.head?, ∃ last ∈ round.getLast?, r last first

namespace Circuit

variable {α : Type} {r q : α → α → Prop} {round : List α} {x : α}

theorem exists_next (h : Circuit r round) (mem : x ∈ round) : ∃ y ∈ round, r x y := by
  obtain ⟨chain, first, hfirst, last, hlast, closes⟩ := h
  obtain ⟨before, after, rfl⟩ := List.append_of_mem mem
  cases after with
  | nil =>
    obtain rfl : x = last := by simpa using hlast
    exact ⟨first, List.mem_of_mem_head? hfirst, closes⟩
  | cons y after =>
    have next : r x y := (List.isChain_append_cons_cons.1 chain).2.1
    exact ⟨y, by simp, next⟩

theorem exists_prev (h : Circuit r round) (mem : x ∈ round) : ∃ y ∈ round, r y x := by
  obtain ⟨chain, first, hfirst, last, hlast, closes⟩ := h
  obtain ⟨before, after, rfl⟩ := List.append_of_mem mem
  rcases List.eq_nil_or_concat before with rfl | ⟨before, y, rfl⟩
  · obtain rfl : x = first := by simpa using hfirst
    exact ⟨last, List.mem_of_mem_getLast? hlast, closes⟩
  · have prev : r y x := by
      rw [List.concat_eq_append, List.append_assoc] at chain
      exact (List.isChain_append_cons_cons.1 chain).2.1
    exact ⟨y, by simp, prev⟩

theorem mono (h : Circuit r round) (le : ∀ x y, r x y → q x y) : Circuit q round := by
  obtain ⟨chain, first, hfirst, last, hlast, closes⟩ := h
  exact ⟨chain.imp le, first, hfirst, last, hlast, le _ _ closes⟩

/-- What comes back to itself lies on a circuit. -/
theorem exists_of_transGen (h : Relation.TransGen r x x) :
    ∃ round, Circuit r round ∧ x ∈ round := by
  obtain ⟨y, step, path⟩ := Relation.TransGen.head'_iff.1 h
  obtain ⟨rest, chain, last⟩ := List.exists_isChain_cons_of_relationReflTransGen path
  have ends : (y :: rest).getLast? = some x := by
    rw [List.getLast?_eq_some_getLast (List.cons_ne_nil y rest), last]
  exact ⟨y :: rest, ⟨chain, y, rfl, x, ends, step⟩, List.mem_of_getLast? ends⟩

end Circuit

def Narration.longest : Narration → Nat
  | lines all => all.length
  | feedback branches => (branches.map (·.lines.length)).max?.getD 0

namespace Scene

def tasks (sc : Scene) : Nat := 1 + 2 * sc.narration.longest

theorem length_linesFor_le (sc : Scene) (verdict : Option Verdict) (summary : Tally) :
    (sc.linesFor verdict summary).length ≤ sc.narration.longest := by
  unfold linesFor
  cases sc.narration with
  | lines all => exact Nat.le_refl _
  | feedback branches =>
    simp only [Narration.longest]
    split
    · rename_i branch found
      apply List.le_max?_getD_of_mem
      exact List.mem_map_of_mem (List.mem_of_find?_eq_some found)
    · exact Nat.zero_le _

end Scene

namespace Script

variable {s : Script} {sc sc' : Scene} {r : Scene → Scene → Prop}

/-- The first scene goes straight on to the second. -/
def Proceeds (s : Script) (sc sc' : Scene) : Prop :=
  ∃ next, sc.exit = .proceed next ∧ s.scene? next = some sc'

theorem Proceeds.leads (h : s.Proceeds sc sc') : s.Leads sc sc' := by
  obtain ⟨next, exit, found⟩ := h
  exact ⟨next, by simp [exit, Exit.targets], found⟩

/-- A scene goes straight on to one scene at most. -/
theorem Proceeds.unique {other : Scene} (h : s.Proceeds sc sc') (h' : s.Proceeds sc other) :
    sc' = other := by
  obtain ⟨next, exit, found⟩ := h
  obtain ⟨next', exit', found'⟩ := h'
  rw [exit] at exit'
  cases exit'
  exact Option.some.inj (found.symm.trans found')

/-- Among the scenes that can be reached none lies on a round of scenes that go straight on. -/
def Restful (s : Script) : Prop :=
  ∀ round, Circuit s.Proceeds round → ∀ sc ∈ round, ¬s.Reaches sc

theorem Restful.once (h : s.Restful) (reached : s.Reaches sc) :
    ¬Relation.TransGen s.Proceeds sc sc := by
  intro path
  obtain ⟨round, circuit, mem⟩ := Circuit.exists_of_transGen path
  exact h round circuit sc mem reached

/-- Every round of scenes that go straight on takes time. -/
def Ticking (s : Script) : Prop :=
  ∀ round, Circuit s.Proceeds round → ∃ sc ∈ round, 0 < sc.leadIn

/-- The first scene goes straight on to the second, which does not wait before its lines. -/
def ProceedsAtOnce (s : Script) (sc sc' : Scene) : Prop := s.Proceeds sc sc' ∧ ¬0 < sc'.leadIn

theorem Ticking.once (h : s.Ticking) : ¬Relation.TransGen s.ProceedsAtOnce sc sc := by
  intro path
  obtain ⟨round, circuit, -⟩ := Circuit.exists_of_transGen path
  obtain ⟨sc', mem, waits⟩ := h round (circuit.mono fun _ _ next => next.1)
  obtain ⟨_, -, -, at_once⟩ := circuit.exists_prev mem
  exact at_once waits

def tasks (s : Script) : Nat := (s.scenes.map (·.tasks)).sum

open Classical in
/-- The tasks of all scenes to which the relation leads from the scene. -/
noncomputable def tasksBeyond (s : Script) (r : Scene → Scene → Prop) (sc : Scene) : Nat :=
  ∑ x ∈ s.scenes.toFinset with Relation.TransGen r sc x, x.tasks

/-- A scene that does not come back to itself has its own tasks beside all that lie beyond it. -/
theorem tasks_add_tasksBeyond_le {among : Finset Scene} (once : ¬Relation.TransGen r sc sc)
    (here : sc ∈ among)
    (beyond : ∀ x ∈ s.scenes, Relation.TransGen r sc x → x ∈ among) :
    sc.tasks + s.tasksBeyond r sc ≤ ∑ x ∈ among, x.tasks := by
  classical
  unfold tasksBeyond
  rw [← Finset.sum_insert (by simp [once])]
  apply Finset.sum_le_sum_of_subset
  intro x mem
  rcases Finset.mem_insert.1 mem with rfl | mem
  · exact here
  · obtain ⟨scene, path⟩ := Finset.mem_filter.1 mem
    exact beyond x (List.mem_toFinset.1 scene) path

theorem tasks_add_tasksBeyond_le_tasks (known : sc ∈ s.scenes)
    (once : ¬Relation.TransGen r sc sc) : sc.tasks + s.tasksBeyond r sc ≤ s.tasks := by
  have all : s.tasks = ∑ x ∈ s.scenes.toFinset, x.tasks := by
    have nodup : s.scenes.Nodup := s.nodup_names.of_map
    rw [tasks, List.sum_toFinset _ nodup]
  rw [all]
  apply tasks_add_tasksBeyond_le once
  · exact List.mem_toFinset.2 known
  · intro x mem _
    exact List.mem_toFinset.2 mem

/-- What lies beyond a scene includes the next scene with all that lies beyond it. -/
theorem tasks_add_tasksBeyond_le_tasksBeyond (known : sc' ∈ s.scenes) (next : r sc sc')
    (once : ¬Relation.TransGen r sc' sc') :
    sc'.tasks + s.tasksBeyond r sc' ≤ s.tasksBeyond r sc := by
  classical
  apply tasks_add_tasksBeyond_le once
  · exact Finset.mem_filter.2 ⟨List.mem_toFinset.2 known, .single next⟩
  · intro x mem path
    exact Finset.mem_filter.2 ⟨List.mem_toFinset.2 mem, .head next path⟩

end Script

end Inquest
