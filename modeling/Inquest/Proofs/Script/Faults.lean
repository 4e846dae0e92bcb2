import Inquest.Proofs.Script.Paths
import Mathlib.Algebra.GroupWithZero.Nat
import Mathlib.Data.Finset.Card
/-!
# The faults of a script

The check refuses a script for its errors, and there is one for each fault: none is hidden by another,
and none is counted twice. What the check has to say does not depend on the order in which the scenes
are listed.
-/

namespace Inquest

/-- Every element occurs before but for its first time. -/
theorem length_repeats_add_card (seen xs : List String) :
    (repeats seen xs).length + (xs.toFinset \ seen.toFinset).card = xs.length := by
  induction xs generalizing seen with
  | nil => simp [repeats]
  | cons x xs ih =>
    rw [repeats, List.toFinset_cons]
    split
    · rename_i old
      rw [Finset.insert_sdiff_of_mem _ (List.mem_toFinset.2 old), List.length_cons, List.length_cons,
        ← ih seen]
      omega
    · rename_i fresh
      -- What occurs for the first time goes over to what has been seen.
      have first : insert x xs.toFinset \ seen.toFinset =
          insert x (xs.toFinset \ (x :: seen).toFinset) := by
        ext y
        by_cases same : y = x <;> simp [same, fresh]
      rw [first, Finset.card_insert_of_notMem (by simp), List.length_cons, ← ih (x :: seen)]
      omega

/-- The values that occur before are all but the distinct ones. -/
theorem length_repeats (xs : List String) : (repeats [] xs).length = xs.length - xs.toFinset.card := by
  have all := length_repeats_add_card [] xs
  rw [List.toFinset_nil, Finset.sdiff_empty] at all
  omega

theorem Verdict.ofWord?_isSome_iff {word : String} :
    (ofWord? word).isSome ↔ word = "guilty" ∨ word = "not-guilty" := by
  rw [Option.isSome_iff_exists]
  constructor
  · rintro ⟨v, known⟩
    rw [ofWord?_eq_some.1 known]
    cases v
    · exact .inl rfl
    · exact .inr rfl
  · rintro (rfl | rfl)
    · exact ⟨.guilty, rfl⟩
    · exact ⟨.notGuilty, rfl⟩

def Script.names (s : Script) : List String := s.scenes.map (·.name)

theorem Script.hasScene_iff_mem_names {s : Script} {name : String} :
    s.hasScene name ↔ name ∈ s.names := by
  simp [hasScene, names]

namespace Exit

/-- How many faults an exit has: one for each time that it leads to no scene, one if it is a gate without
options, one for each option beyond the distinct values, and one for each option of a verdict gate that
stands for no verdict. -/
def faults (e : Exit) (names : List String) : Nat :=
  e.targets.countP (· ∉ names) +
  match e with
  | gate kind options =>
    (if options = [] then 1 else 0) +
    (options.length - (options.map (·.value)).toFinset.card) +
    match kind with
    | .choice => 0
    | .verdict => options.countP fun o => o.value ≠ "guilty" ∧ o.value ≠ "not-guilty"
  | _ => 0

variable {e : Exit} {s : Script} {scene : String}

theorem sound_iff : e.Sound s ↔ (∀ next ∈ e.targets, next ∈ s.names) ∧
    ∀ kind options, e = .gate kind options → options ≠ [] ∧ (options.map (·.value)).Nodup ∧
      (kind = .verdict → ∀ o ∈ options, o.value = "guilty" ∨ o.value = "not-guilty") := by
  constructor
  · intro sound
    refine ⟨fun next mem => Script.hasScene_iff_mem_names.1 (sound.targets next mem), ?_⟩
    rintro kind options rfl
    refine ⟨sound.options _ _ rfl, sound.values, ?_⟩
    rintro rfl o mem
    exact Verdict.ofWord?_isSome_iff.1 (sound.words _ rfl o mem)
  · rintro ⟨targets, gate⟩
    refine ⟨fun next mem => Script.hasScene_iff_mem_names.2 (targets next mem), ?_, ?_, ?_⟩
    · exact fun kind options exit => (gate kind options exit).1
    · cases e with
      | gate kind options => exact (gate kind options rfl).2.1
      | proceed | close => exact .nil
    · exact fun options exit o mem =>
        Verdict.ofWord?_isSome_iff.2 ((gate .verdict options exit).2.2 rfl o mem)

/-- An exit has an issue for each of its faults. -/
theorem length_issues (e : Exit) (s : Script) (scene : String) :
    (e.issues s scene).length = e.faults s.names := by
  have loose : (e.targets.filter (!s.hasScene ·)).length = e.targets.countP (· ∉ s.names) := by
    rw [← List.countP_eq_length_filter]
    refine List.countP_congr fun next _ => ?_
    simp [← Script.hasScene_iff_mem_names]
  unfold issues faults
  rw [List.length_append, List.length_map, loose, Nat.add_left_cancel_iff]
  cases e with
  | proceed next => rfl
  | close => rfl
  | gate kind options =>
    have empty : (if options.isEmpty then [Issue.emptyGate scene] else []).length =
        if options = [] then 1 else 0 := by
      cases options <;> rfl
    rw [List.length_append, List.length_append, empty, List.length_map, length_repeats,
      List.length_map, Nat.add_left_cancel_iff]
    cases kind with
    | choice => rfl
    | verdict =>
      rw [List.length_map, ← List.countP_eq_length_filter, List.countP_map]
      refine List.countP_congr fun o _ => ?_
      rw [Function.comp_apply, decide_eq_true_iff, ← not_or, ← Verdict.ofWord?_isSome_iff]
      simp

end Exit

/-- A scene has an error for each fault of its exit. -/
theorem Scene.countP_issues (sc : Scene) (s : Script) :
    (sc.issues s).countP (·.isError) = sc.exit.faults s.names := by
  have exit : (sc.exit.issues s sc.name).countP (·.isError) = (sc.exit.issues s sc.name).length :=
    List.countP_eq_length.2 fun _ mem => Exit.isError_of_mem_issues mem
  have narration : (sc.narration.issues sc.name).countP (·.isError) = 0 :=
    List.countP_eq_zero.2 fun _ mem => Narration.not_isError_of_mem_issues mem
  rw [issues, List.countP_append, exit, narration, Exit.length_issues, Nat.add_zero]

namespace Script

variable {s s' : Script}

/-- The errors of a script are its faults: one if the start is missing, and those of the exits. -/
theorem countP_issues (s : Script) : s.issues.countP (·.isError) =
    (if s.start ∈ s.names then 0 else 1) + (s.scenes.map (·.exit.faults s.names)).sum := by
  have start : (if s.hasScene s.start then [] else [Issue.missingStart s.start]).countP (·.isError) =
      if s.start ∈ s.names then 0 else 1 := by
    simp only [hasScene_iff_mem_names]
    split <;> rfl
  have scenes : (s.sortedScenes.flatMap (·.issues s)).countP (·.isError) =
      (s.scenes.map (·.exit.faults s.names)).sum := by
    rw [List.countP_flatMap]
    have each : (List.countP (·.isError) ∘ fun sc : Scene => sc.issues s) =
        fun sc => sc.exit.faults s.names := funext fun sc => sc.countP_issues s
    rw [each]
    exact ((List.mergeSort_perm ..).map _).sum_nat
  have unreachable : ∀ scenes : List Scene,
      (scenes.map (Issue.unreachable ·.name s.start)).countP (·.isError) = 0 := by
    intro scenes
    rw [List.countP_eq_zero, List.forall_mem_map]
    exact fun sc _ => Bool.false_ne_true
  have ending : ∀ closes : Bool, (if closes then [] else [Issue.noEnding]).countP (·.isError) = 0 := by
    decide
  unfold issues
  simp only [List.countP_append, start, scenes, unreachable, ending, Nat.add_zero]

theorem scene?_eq_some_iff {name : String} {sc : Scene} :
    s.scene? name = some sc ↔ sc ∈ s.scenes ∧ sc.name = name := by
  constructor
  · exact mem_of_scene?
  · rintro ⟨mem, rfl⟩
    exact scene?_of_mem mem

structure Reordered (s s' : Script) : Prop where
  start : s'.start = s.start
  scenes : s'.scenes.Perm s.scenes

namespace Reordered

variable (h : s.Reordered s')

include h

theorem scene? : s'.scene? = s.scene? := by
  funext name
  ext sc
  rw [scene?_eq_some_iff, scene?_eq_some_iff, h.scenes.mem_iff]

theorem hasScene : s'.hasScene = s.hasScene :=
  funext fun _ => h.scenes.any_eq

/-- Scenes are told apart by their names, so there is one way to list them by name. -/
theorem sortedScenes : s'.sortedScenes = s.sortedScenes := by
  have trans : ∀ a b c : Scene, decide (a.name ≤ b.name) → decide (b.name ≤ c.name) →
      decide (a.name ≤ c.name) := by
    simp only [decide_eq_true_eq]
    exact fun _ _ _ => String.le_trans
  have total : ∀ a b : Scene, decide (a.name ≤ b.name) || decide (b.name ≤ a.name) := by
    simp only [Bool.or_eq_true, decide_eq_true_eq]
    exact fun _ _ => String.le_total _ _
  refine List.Perm.eq_of_pairwise ?_ (List.pairwise_mergeSort trans total s'.scenes)
    (List.pairwise_mergeSort trans total s.scenes) ?_
  · intro a b ha hb le ge
    have same : a.name = b.name :=
      String.le_antisymm (of_decide_eq_true le) (of_decide_eq_true ge)
    refine List.inj_on_of_nodup_map s.nodup_names ?_ (mem_sortedScenes.1 hb) same
    exact h.scenes.mem_iff.1 (mem_sortedScenes.1 ha)
  · exact (List.mergeSort_perm ..).trans (h.scenes.trans (List.mergeSort_perm ..).symm)

theorem reaches (sc : Scene) : s'.Reaches sc ↔ s.Reaches sc := by
  have leads : s'.Leads = s.Leads := by
    funext sc sc'
    simp only [Leads, h.scene?]
  simp only [Reaches, leads, h.scene?, h.start]

theorem contains_reachable (name : String) :
    s'.reachable.contains name = s.reachable.contains name := by
  rw [Bool.eq_iff_iff, List.contains_iff_mem, List.contains_iff_mem, mem_reachable_iff,
    mem_reachable_iff]
  simp only [h.reaches]

/-- What is wrong with a script does not depend on the order of its scenes. -/
theorem issues : s'.issues = s.issues := by
  have scene : (fun sc : Scene => sc.issues s') = fun sc => sc.issues s := by
    funext sc
    simp only [Scene.issues, Exit.issues, h.hasScene]
  simp only [Script.issues, h.sortedScenes, h.hasScene, h.start, h.contains_reachable, scene]

end Reordered

/-- The check accepts a script exactly if its start exists, every exit leads to scenes that exist, and
every gate has options, with distinct values, and with the words for verdicts if it asks for one;
otherwise it refuses it with all errors there are. There is an error for the start if it is missing, and
one for each fault of an exit, as `Exit.faults` counts them. The issues do not depend on the order in
which the scenes are listed. -/
theorem faults_of_check (s : Script) :
    (s.check = .ok () ↔ s.start ∈ s.names ∧ ∀ sc ∈ s.scenes,
      (∀ next ∈ sc.exit.targets, next ∈ s.names) ∧
      ∀ kind options, sc.exit = .gate kind options →
        options ≠ [] ∧ (options.map (·.value)).Nodup ∧
        (kind = .verdict → ∀ o ∈ options, o.value = "guilty" ∨ o.value = "not-guilty")) ∧
    (∀ e, s.check = .error e → e = .faulty (s.issues.filter (·.isError))) ∧
    s.issues.countP (·.isError) =
      (if s.start ∈ s.names then 0 else 1) + (s.scenes.map (·.exit.faults s.names)).sum ∧
    ∀ s' : Script, s'.start = s.start → s'.scenes.Perm s.scenes → s'.issues = s.issues := by
  refine ⟨?_, ?_, s.countP_issues, fun s' start scenes => Reordered.issues ⟨start, scenes⟩⟩
  · rw [check_eq_ok_iff]
    constructor
    · intro sound
      exact ⟨hasScene_iff_mem_names.1 sound.start,
        fun sc mem => Exit.sound_iff.1 (sound.exits sc mem)⟩
    · rintro ⟨start, exits⟩
      exact ⟨hasScene_iff_mem_names.2 start, fun sc mem => Exit.sound_iff.2 (exits sc mem)⟩
  · intro e refused
    rw [check] at refused
    split at refused
    · cases refused
    · exact (Except.error.inj refused).symm

end Script

namespace Tangled

/-- A script with every fault there is, two of them twice. -/
def script : Script where
  title := "Tangled"
  suspect := "Flora Jasmine"
  start := "begin"
  scenes := [
    ⟨"ask", 0, .lines [], .gate .verdict [⟨⟨"Guilty", "guilty"⟩, "ask"⟩,
      ⟨⟨"Very guilty", "guilty"⟩, "gone"⟩, ⟨⟨"No idea", "maybe"⟩, "gone"⟩]⟩,
    ⟨"choose", 0, .lines [], .gate .choice []⟩]
  nodup_names := by decide

def turned : Script := { script with
  scenes := script.scenes.reverse
  nodup_names := by decide }

theorem faults_of_turned : turned.scenes.Perm script.scenes ∧ script.check ≠ .ok () ∧
    script.issues.countP (·.isError) = 6 ∧ turned.issues = script.issues := by
  have turn : turned.scenes.Perm script.scenes := List.reverse_perm _
  obtain ⟨sound, -, count, order⟩ := script.faults_of_check
  refine ⟨turn, fun accepted => ?_, count.trans (by decide), order turned rfl turn⟩
  exact absurd (sound.1 accepted).1 (by decide)

end Tangled

end Inquest
