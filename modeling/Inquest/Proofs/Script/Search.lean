import Inquest.Proofs.Script.Paths
import Mathlib.Data.List.Chain
import Mathlib.Logic.Function.Iterate
/-!
# The search for reachable scenes

The search takes one name off those to visit in each turn. It comes to an end, and what it has found then
tells how long it took: a turn for the start, and a turn for each target of a scene that was found. It
finds each scene once, and it finds those at the end of a path of names that begins with the start.
-/

namespace Inquest.Script

structure Search where
  seen : List String := []
  frontier : List String
  deriving DecidableEq, Repr

/-- One turn of the search. With nothing to visit it stays as it is. -/
def turn (s : Script) (x : Search) : Search :=
  match x.frontier with
  | [] => x
  | name :: rest =>
    match s.scene? name with
    | none => { x with frontier := rest }
    | some sc =>
      if sc.name ∈ x.seen then { x with frontier := rest }
      else ⟨sc.name :: x.seen, rest ++ sc.exit.targets⟩

/-- The search has something to visit for so many turns, and nothing after them. -/
structure Lasts (s : Script) (x : Search) (turns : Nat) : Prop where
  goesOn : ∀ n < turns, (s.turn^[n] x).frontier ≠ []
  ends : (s.turn^[turns] x).frontier = []

/-- The targets of the scene with a name. A name that no scene has leads nowhere. -/
def targetsOf (s : Script) (name : String) : List String :=
  ((s.scene? name).map (·.exit.targets)).getD []

/-- Names of scenes, each of them a target of the one before it. -/
structure Path (s : Script) (path : List String) : Prop where
  known : ∀ name ∈ path, s.hasScene name
  linked : path.IsChain fun name next => next ∈ s.targetsOf name

variable {s : Script} {sc : Scene} {x : Search} {name next : String} {seen frontier path : List String}

theorem targetsOf_of_scene? (found : s.scene? name = some sc) :
    s.targetsOf name = sc.exit.targets := by
  rw [targetsOf, found]
  rfl

theorem Lasts.succ {turns : Nat} (more : x.frontier ≠ []) (h : s.Lasts (s.turn x) turns) :
    s.Lasts x (turns + 1) where
  goesOn n lt := by
    cases n with
    | zero => exact more
    | succ n => exact h.goesOn n (Nat.lt_of_succ_lt_succ lt)
  ends := h.ends

/-- The loop ends with what the search has seen. Each turn takes one name away, and names come in as the
targets of scenes that are seen for the first time. -/
theorem exists_turns (s : Script) (seen frontier : List String) :
    ∃ turns, s.Lasts ⟨seen, frontier⟩ turns ∧
      s.turn^[turns] ⟨seen, frontier⟩ = ⟨s.explore seen frontier, []⟩ ∧
      turns + (seen.flatMap s.targetsOf).length =
        frontier.length + ((s.explore seen frontier).flatMap s.targetsOf).length := by
  fun_induction explore s seen frontier with
  | case1 seen => exact ⟨0, ⟨fun n lt => absurd lt (Nat.not_lt_zero n), rfl⟩, rfl, by simp⟩
  | case2 seen name rest missing ih =>
    obtain ⟨turns, lasts, ends, count⟩ := ih
    have first : s.turn ⟨seen, name :: rest⟩ = ⟨seen, rest⟩ := by simp only [turn, missing]
    refine ⟨turns + 1, .succ (List.cons_ne_nil _ _) (first ▸ lasts), ?_, ?_⟩
    · rw [Function.iterate_succ_apply, first, ends]
    · rw [List.length_cons]
      omega
  | case3 seen name rest sc found old ih =>
    obtain ⟨turns, lasts, ends, count⟩ := ih
    have first : s.turn ⟨seen, name :: rest⟩ = ⟨seen, rest⟩ := by simp only [turn, found, if_pos old]
    refine ⟨turns + 1, .succ (List.cons_ne_nil _ _) (first ▸ lasts), ?_, ?_⟩
    · rw [Function.iterate_succ_apply, first, ends]
    · rw [List.length_cons]
      omega
  | case4 seen name rest sc found fresh ih =>
    obtain ⟨turns, lasts, ends, count⟩ := ih
    have first : s.turn ⟨seen, name :: rest⟩ = ⟨sc.name :: seen, rest ++ sc.exit.targets⟩ := by
      simp only [turn, found, if_neg fresh]
    refine ⟨turns + 1, .succ (List.cons_ne_nil _ _) (first ▸ lasts), ?_, ?_⟩
    · rw [Function.iterate_succ_apply, first, ends]
    · rw [List.flatMap_cons, targetsOf_of_scene? (scene?_name found), List.length_append,
        List.length_append] at count
      rw [List.length_cons]
      omega

/-- A scene is seen once. -/
theorem nodup_explore (h : seen.Nodup) : (s.explore seen frontier).Nodup := by
  fun_induction explore s seen frontier with
  | case1 => exact h
  | case2 _ _ _ _ ih => exact ih h
  | case3 _ _ _ _ _ _ ih => exact ih h
  | case4 _ _ _ _ _ fresh ih => exact ih (List.nodup_cons.2 ⟨fresh, h⟩)

theorem start_mem_reachable (known : s.hasScene s.start) : s.start ∈ s.reachable := by
  obtain ⟨first, found⟩ := hasScene_iff.1 known
  exact mem_reachable_iff.2 ⟨first, ⟨first, found, .refl⟩, (mem_of_scene? found).2⟩

theorem hasScene_of_mem_reachable (h : name ∈ s.reachable) : s.hasScene name := by
  obtain ⟨sc, reached, rfl⟩ := mem_reachable_iff.1 h
  exact hasScene_iff.2 ⟨sc, reached.known⟩

/-- The search goes on to every scene that is a target of one it has found. -/
theorem mem_reachable_of_target (h : name ∈ s.reachable) (target : next ∈ s.targetsOf name)
    (known : s.hasScene next) : next ∈ s.reachable := by
  obtain ⟨sc, reached, rfl⟩ := mem_reachable_iff.1 h
  obtain ⟨sc', found⟩ := hasScene_iff.1 known
  rw [targetsOf_of_scene? reached.known] at target
  exact mem_reachable_iff.2 ⟨sc', reached.leads ⟨next, target, found⟩, (mem_of_scene? found).2⟩

/-- All that lies on a path is found if its first name is. -/
theorem Path.subset_reachable (h : s.Path (name :: path)) (found : name ∈ s.reachable) :
    name :: path ⊆ s.reachable := by
  induction path generalizing name with
  | nil => simpa using found
  | cons next path ih =>
    obtain ⟨link, linked⟩ := List.isChain_cons_cons.1 h.linked
    have later : s.Path (next :: path) :=
      ⟨fun other mem => h.known other (List.mem_cons_of_mem _ mem), linked⟩
    have known : s.hasScene next := later.known next List.mem_cons_self
    exact List.cons_subset.2 ⟨found, ih later (mem_reachable_of_target found link known)⟩

/-- A path goes on to a scene that is a target of its last name. -/
theorem Path.concat (h : s.Path path) (last : path.getLast? = some name)
    (target : next ∈ s.targetsOf name) (known : s.hasScene next) : s.Path (path ++ [next]) where
  known := by
    intro other mem
    rcases List.mem_append.1 mem with before | here
    · exact h.known other before
    · exact List.mem_singleton.1 here ▸ known
  linked := by
    refine List.isChain_append.2 ⟨h.linked, .singleton _, ?_⟩
    intro name' mem next' mem'
    obtain rfl : name = name' := Option.some.inj (last.symm.trans mem)
    obtain rfl : next = next' := Option.some.inj mem'
    exact target

/-- The search finds the names at the end of the paths from the start. -/
theorem mem_reachable_iff_path : name ∈ s.reachable ↔
    ∃ path, s.Path path ∧ path.head? = some s.start ∧ path.getLast? = some name := by
  constructor
  · intro found
    obtain ⟨sc, ⟨first, known, steps⟩, rfl⟩ := mem_reachable_iff.1 found
    clear found
    induction steps with
    | refl =>
      have name : first.name = s.start := (mem_of_scene? known).2
      have start : s.hasScene s.start := hasScene_iff.2 ⟨first, known⟩
      refine ⟨[s.start], ⟨?_, .singleton _⟩, rfl, by rw [name]; rfl⟩
      rintro other mem
      rwa [List.mem_singleton.1 mem]
    | @tail sc sc' before step ih =>
      obtain ⟨path, isPath, head, last⟩ := ih
      have here : s.scene? sc.name = some sc := Reaches.known ⟨first, known, before⟩
      obtain ⟨next, target, found⟩ := step
      have same : sc'.name = next := (mem_of_scene? found).2
      rw [← targetsOf_of_scene? here] at target
      refine ⟨path ++ [next], isPath.concat last target (hasScene_iff.2 ⟨sc', found⟩), ?_, ?_⟩
      · rw [List.head?_append, head]
        rfl
      · rw [List.getLast?_append, same]
        rfl
  · rintro ⟨path, isPath, head, last⟩
    obtain ⟨rest, rfl⟩ := List.head?_eq_some_iff.1 head
    have start : s.start ∈ s.reachable := start_mem_reachable (isPath.known _ List.mem_cons_self)
    exact isPath.subset_reachable start (List.mem_of_getLast? last)

/-- The search for reachable scenes comes to an end, after a turn for the start and one for each target of
a scene that it has found. It finds each scene once, and it finds those to which a path of names leads
from the start: none if the start is missing, and never a name that no scene has. -/
theorem search_of_paths (s : Script) :
    let turns := 1 + (s.reachable.flatMap s.targetsOf).length
    s.Lasts { frontier := [s.start] } turns ∧
    s.turn^[turns] { frontier := [s.start] } = ⟨s.reachable, []⟩ ∧
    s.reachable.Nodup ∧
    (∀ name, name ∈ s.reachable ↔
      ∃ path, s.Path path ∧ path.head? = some s.start ∧ path.getLast? = some name) ∧
    (s.reachable = [] ↔ ¬s.hasScene s.start) ∧
    s.reachable ⊆ s.scenes.map (·.name) := by
  intro turns
  obtain ⟨n, lasts, ends, count⟩ := s.exists_turns [] [s.start]
  obtain rfl : n = turns := by simpa [turns, reachable] using count
  refine ⟨lasts, ends, nodup_explore .nil, fun name => mem_reachable_iff_path, ?_, ?_⟩
  · constructor
    · intro empty known
      have found := start_mem_reachable known
      rw [empty] at found
      cases found
    · intro missing
      refine List.eq_nil_iff_forall_not_mem.2 fun name found => ?_
      obtain ⟨path, isPath, head, -⟩ := mem_reachable_iff_path.1 found
      exact missing (isPath.known _ (List.mem_of_mem_head? head))
  · intro name found
    obtain ⟨sc, known⟩ := hasScene_iff.1 (hasScene_of_mem_reachable found)
    obtain ⟨mem, rfl⟩ := mem_of_scene? known
    exact List.mem_map_of_mem mem

end Inquest.Script
