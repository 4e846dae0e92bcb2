import Inquest.Script.Draft
import Mathlib.Data.List.Nodup
/-!
# Sound scripts

What a script has to be like to be played: every name leads somewhere, every gate has options, and
the options of a gate can be told apart. The check accepts exactly the scripts that are like this,
so that a walk through an accepted script never looks for a scene that is not there.
-/

namespace Inquest

theorem repeats_eq_nil_iff {seen xs : List String} :
    repeats seen xs = [] ↔ xs.Nodup ∧ ∀ x ∈ xs, x ∉ seen := by
  induction xs generalizing seen with
  | nil => simp [repeats]
  | cons x xs ih =>
    unfold repeats
    split
    · rename_i hx
      simp [hx]
    · rename_i hx
      rw [ih, List.nodup_cons]
      constructor
      · rintro ⟨hn, hs⟩
        have hx' : x ∉ xs := fun h => hs x h List.mem_cons_self
        refine ⟨⟨hx', hn⟩, List.forall_mem_cons.2 ⟨hx, fun y hy h => ?_⟩⟩
        exact hs y hy (List.mem_cons_of_mem _ h)
      · rintro ⟨⟨hx', hn⟩, hs⟩
        refine ⟨hn, fun y hy h => ?_⟩
        rcases List.mem_cons.1 h with rfl | h
        · exact hx' hy
        · exact hs y (List.mem_cons_of_mem _ hy) h

namespace Exit

/-- An exit that a scene of the script `s` can be left through. -/
structure Sound (e : Exit) (s : Script) : Prop where
  targets : ∀ name ∈ e.targets, s.hasScene name
  options : ∀ kind options, e = .gate kind options → options ≠ []
  values : (e.options.map (·.value)).Nodup
  words : ∀ options, e = .gate .verdict options → ∀ o ∈ options, (Verdict.ofWord? o.value).isSome

/-- Every issue of an exit is an error. -/
theorem isError_of_mem_issues {e : Exit} {s : Script} {scene : String} {i : Issue}
    (h : i ∈ e.issues s scene) : i.isError := by
  rcases e with next | ⟨kind, options⟩ | _
  · simp only [issues, List.append_nil, List.mem_map] at h
    obtain ⟨_, _, rfl⟩ := h
    rfl
  · cases kind <;> simp only [issues, List.mem_append, List.mem_map, List.not_mem_nil] at h <;>
      grind [Issue.isError, Issue.severity]
  · simp [issues, targets] at h

theorem issues_eq_nil_iff {e : Exit} {s : Script} {scene : String} :
    e.issues s scene = [] ↔ e.Sound s := by
  have targets : (e.targets.filter (!s.hasScene ·)).map (Issue.danglingTarget scene) = [] ↔
      ∀ name ∈ e.targets, s.hasScene name := by simp
  unfold issues
  rw [List.append_eq_nil_iff, targets]
  rcases e with next | ⟨kind, options⟩ | _
  · exact ⟨fun h => ⟨h.1, nofun, .nil, nofun⟩, fun h => ⟨h.targets, rfl⟩⟩
  · have values : (repeats [] (options.map (·.value))).map (Issue.repeatedValue scene) = [] ↔
        (options.map (·.value)).Nodup := by simp [repeats_eq_nil_iff]
    have gate : (if options.isEmpty then [Issue.emptyGate scene] else []) = [] ↔ options ≠ [] := by
      cases options <;> simp
    simp only [List.append_eq_nil_iff, gate, values]
    cases kind with
    | choice =>
      exact ⟨fun h => ⟨h.1, fun _ _ he => by cases he; exact h.2.1.1, h.2.1.2, nofun⟩,
        fun h => ⟨h.targets, ⟨h.options _ _ rfl, h.values⟩, rfl⟩⟩
    | verdict =>
      have words : ((options.map (·.value)).filter (Verdict.ofWord? · |>.isNone)).map
          (Issue.badVerdict scene) = [] ↔ ∀ o ∈ options, (Verdict.ofWord? o.value).isSome := by
        simp [Option.isSome_iff_ne_none]
      rw [words]
      exact ⟨fun h => ⟨h.1, fun _ _ he => by cases he; exact h.2.1.1, h.2.1.2,
          fun _ he => by cases he; exact h.2.2⟩,
        fun h => ⟨h.targets, ⟨h.options _ _ rfl, h.values⟩, h.words _ rfl⟩⟩
  · exact ⟨fun h => ⟨h.1, nofun, .nil, nofun⟩, fun h => ⟨h.targets, rfl⟩⟩

/-- An exit that is no gate need only lead somewhere. -/
theorem sound_of_ne_gate {e : Exit} {s : Script} (targets : ∀ name ∈ e.targets, s.hasScene name)
    (plain : ∀ kind options, e ≠ .gate kind options) : e.Sound s := by
  refine ⟨targets, ?_, ?_, ?_⟩
  · intro kind options exit
    exact absurd exit (plain kind options)
  · cases e with
    | gate kind options => exact absurd rfl (plain kind options)
    | proceed | close => exact .nil
  · intro options exit
    exact absurd exit (plain .verdict options)

end Exit

/-- No issue of a narration is an error. -/
theorem Narration.not_isError_of_mem_issues {n : Narration} {scene : String} {i : Issue}
    (h : i ∈ n.issues scene) : ¬i.isError := by
  cases n with
  | lines => simp [issues] at h
  | feedback branches =>
    obtain ⟨_, _, rfl⟩ := List.mem_map.1 h
    exact Bool.false_ne_true

namespace Script

variable {s : Script}

theorem mem_sortedScenes {sc : Scene} : sc ∈ s.sortedScenes ↔ sc ∈ s.scenes := by
  rw [sortedScenes, List.mem_mergeSort]

/-- The errors of a script: a missing start, and whatever is wrong with an exit. -/
theorem mem_errors {i : Issue} : i ∈ s.errors ↔
    (¬s.hasScene s.start ∧ i = .missingStart s.start) ∨
      ∃ sc ∈ s.scenes, i ∈ sc.exit.issues s sc.name := by
  rw [errors, List.mem_filter]
  constructor
  · rintro ⟨hi, he⟩
    simp only [issues, List.mem_append, List.mem_flatMap, Scene.issues] at hi
    rcases hi with ((hi | ⟨sc, hsc, hi | hi⟩) | hi) | hi
    · left
      split at hi <;> simp_all
    · exact .inr ⟨sc, mem_sortedScenes.1 hsc, hi⟩
    · exact absurd he (Narration.not_isError_of_mem_issues hi)
    · obtain ⟨_, _, rfl⟩ := List.mem_map.1 hi
      exact absurd he Bool.false_ne_true
    · split at hi
      · exact absurd hi List.not_mem_nil
      · rw [List.mem_singleton.1 hi] at he
        exact absurd he Bool.false_ne_true
  · simp only [issues, List.mem_append, List.mem_flatMap, Scene.issues]
    rintro (⟨hs, rfl⟩ | ⟨sc, hsc, hi⟩)
    · exact ⟨.inl (.inl (.inl (by simp [hs]))), rfl⟩
    · exact ⟨.inl (.inl (.inr ⟨sc, mem_sortedScenes.2 hsc, .inl hi⟩)),
        Exit.isError_of_mem_issues hi⟩

structure Sound (s : Script) : Prop where
  start : s.hasScene s.start
  exits : ∀ sc ∈ s.scenes, sc.exit.Sound s

/-- The check accepts the sound scripts and no others. -/
theorem check_eq_ok_iff : s.check = .ok () ↔ s.Sound := by
  have empty : s.check = .ok () ↔ s.errors = [] := by
    unfold check
    split <;> simp_all
  rw [empty]
  constructor
  · intro h
    have none : ∀ i, i ∉ s.errors := List.eq_nil_iff_forall_not_mem.1 h
    refine ⟨Classical.byContradiction fun hs => none _ (mem_errors.2 (.inl ⟨hs, rfl⟩)), ?_⟩
    intro sc hsc
    have empty : sc.exit.issues s sc.name = [] := List.eq_nil_iff_forall_not_mem.2 fun i hi =>
      none i (mem_errors.2 (.inr ⟨sc, hsc, hi⟩))
    exact Exit.issues_eq_nil_iff.1 empty
  · rintro ⟨hs, he⟩
    refine List.eq_nil_iff_forall_not_mem.2 fun i hi => ?_
    rcases mem_errors.1 hi with ⟨hn, _⟩ | ⟨sc, hsc, hi⟩
    · exact hn hs
    · rw [Exit.issues_eq_nil_iff.2 (he sc hsc)] at hi
      exact absurd hi List.not_mem_nil

theorem hasScene_iff {name : String} : s.hasScene name ↔ ∃ sc, s.scene? name = some sc := by
  rw [← Option.isSome_iff_exists, scene?, List.find?_isSome, hasScene, List.any_eq_true]

/-- Scenes are told apart by their names, so looking for the name of a scene finds it. -/
theorem scene?_of_mem {sc : Scene} (h : sc ∈ s.scenes) : s.scene? sc.name = some sc := by
  have known : s.hasScene sc.name := by
    rw [hasScene, List.any_eq_true]
    exact ⟨sc, h, by simp⟩
  obtain ⟨sc', found⟩ := hasScene_iff.1 known
  obtain ⟨mem, name⟩ := mem_of_scene? found
  rw [found, List.inj_on_of_nodup_map s.nodup_names mem h name]

end Script

namespace Script.Sound

variable {s : Script} {sc : Scene} {name : String}

/-- A scene of a sound script can be left. -/
theorem exit (h : s.Sound) (hsc : s.scene? name = some sc) : sc.exit.Sound s :=
  h.exits sc (mem_of_scene? hsc).1

/-- Where an exit leads there is a scene. -/
theorem scene?_of_mem_targets (h : s.Sound) (hsc : s.scene? name = some sc) {next : String}
    (hn : next ∈ sc.exit.targets) : ∃ sc', s.scene? next = some sc' :=
  hasScene_iff.1 ((h.exit hsc).targets next hn)

end Script.Sound

/-- The options of a gate are told apart by their values. -/
theorem Exit.Sound.eq_of_value_eq {e : Exit} {s : Script} (h : e.Sound s) {o o' : GateOption}
    (ho : o ∈ e.options) (ho' : o' ∈ e.options) (hv : o.value = o'.value) : o = o' :=
  List.inj_on_of_nodup_map h.values ho ho' hv

/-- Looking for the value of an option finds the option. -/
theorem Exit.Sound.find?_value {e : Exit} {s : Script} (h : e.Sound s) {o : GateOption}
    (ho : o ∈ e.options) : e.options.find? (·.value = o.value) = some o := by
  have offered : (e.options.find? (·.value = o.value)).isSome := by
    rw [List.find?_isSome]
    exact ⟨o, ho, by simp⟩
  obtain ⟨o', found⟩ := Option.isSome_iff_exists.1 offered
  have same : o'.value = o.value := by simpa using List.find?_some found
  rw [found, h.eq_of_value_eq (List.mem_of_find?_eq_some found) ho same]

end Inquest
