import Inquest.ClaimTable
import Mathlib.Data.List.Sort
import Mathlib.Data.Set.Card
/-!
# Tables and their values

A table is what it has for each claim, and nothing else: tables with the same values are equal, and there
are as many entries as claims with a value.
-/

namespace Inquest.ClaimTable

variable {α : Type} {s t : ClaimTable α}

/-- Tables that have the same values are equal. -/
theorem ext_get? (h : ∀ c, s.get? c = t.get? c) : s = t := by
  have irrefl : Std.Irrefl fun e f : ClaimId × α => e.1 < f.1 := ⟨fun _ => UInt32.lt_irrefl _⟩
  have antisymm : Std.Antisymm fun e f : ClaimId × α => e.1 < f.1 :=
    ⟨fun _ _ less more => absurd more (UInt32.lt_asymm less)⟩
  refine ClaimTable.ext (s.sorted.eq_of_mem_iff t.sorted fun e => ?_)
  rw [mem_entries_iff (c := e.1) (a := e.2), mem_entries_iff, h]

/-- Only the claim itself loses its value. -/
theorem get?_erase (t : ClaimTable α) (c d : ClaimId) :
    (t.erase c).get? d = if d = c then none else t.get? d := by
  ext a
  rw [← mem_entries_iff, erase, List.mem_filter, mem_entries_iff]
  by_cases same : d = c <;> simp [same]

theorem sorted_claims (t : ClaimTable α) : (t.entries.map (·.1)).Pairwise (· < ·) :=
  List.pairwise_map.2 t.sorted

theorem mem_claims_iff {c : ClaimId} : c ∈ t.entries.map (·.1) ↔ t.get? c ≠ none := by
  rw [List.mem_map, Option.ne_none_iff_exists']
  constructor
  · rintro ⟨⟨c, a⟩, mem, rfl⟩
    exact ⟨a, mem_entries_iff.1 mem⟩
  · rintro ⟨a, found⟩
    exact ⟨(c, a), mem_entries_iff.2 found, rfl⟩

/-- There is one entry for each claim that has a value. -/
theorem size_eq_ncard (t : ClaimTable α) : t.size = {c | t.get? c ≠ none}.ncard := by
  have nodup : (t.entries.map (·.1)).Nodup := t.sorted_claims.imp fun less => UInt32.ne_of_lt less
  have known : {c | t.get? c ≠ none} = ((t.entries.map (·.1)).toFinset : Set ClaimId) := by
    ext c
    rw [Set.mem_ofPred_eq, List.coe_toFinset, Set.mem_ofPred_eq, mem_claims_iff]
  rw [known, Set.ncard_coe_finset, List.toFinset_card_of_nodup nodup, List.length_map, size]

end Inquest.ClaimTable
