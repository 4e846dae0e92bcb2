import Inquest.Grading
import Mathlib.Data.Bool.Count
import Mathlib.Data.Finset.Card
/-!
# What a grading says

A report has a row for every claim that the key knows, and its counts are those of the rows. The key
is a list of entries in which the last entry for a claim counts, so all that a report says can be read
off the entries and the marks.
-/

namespace Inquest

/-- A mark is right if it names the truth, and no mark is right where the claim is true. -/
theorem judge_iff {expected : Category} {marked : Option Category} :
    judge expected marked ↔ marked = some expected ∨ marked = none ∧ expected = .supported := by
  cases marked <;> simp [judge]

namespace Tally

theorem foldl_count (outcomes : List Bool) (t : Tally) : outcomes.foldl count t =
    { t with
      correct := t.correct + .ofNat (outcomes.count true)
      incorrect := t.incorrect + .ofNat (outcomes.count false) } := by
  induction outcomes generalizing t with
  | nil => simp
  | cons correct outcomes ih =>
    cases correct <;> simp [ih, count, UInt32.ofNat_add, UInt32.add_assoc, UInt32.add_comm]

/-- The counts of outcomes, as long as they can be counted. -/
theorem ofOutcomes_eq (outcomes : List Bool) : ofOutcomes outcomes =
    ⟨.ofNat (outcomes.count true), .ofNat (outcomes.count false), .ofNat outcomes.length⟩ := by
  rw [ofOutcomes, foldl_count]
  simp [← UInt32.ofNat_add, List.count_true_add_count_false]

variable {outcomes : List Bool}

theorem toNat_ofOutcomes (few : outcomes.length < 2 ^ 32) :
    (ofOutcomes outcomes).correct.toNat = outcomes.count true ∧
      (ofOutcomes outcomes).incorrect.toNat = outcomes.count false ∧
      (ofOutcomes outcomes).total.toNat = outcomes.length := by
  have right : outcomes.count true < 2 ^ 32 := Nat.lt_of_le_of_lt List.count_le_length few
  have wrong : outcomes.count false < 2 ^ 32 := Nat.lt_of_le_of_lt List.count_le_length few
  rw [ofOutcomes_eq]
  exact ⟨UInt32.toNat_ofNat_of_lt' right, UInt32.toNat_ofNat_of_lt' wrong,
    UInt32.toNat_ofNat_of_lt' few⟩

/-- All is correct exactly if there is an outcome and none is wrong. -/
theorem allCorrect_ofOutcomes (few : outcomes.length < 2 ^ 32) :
    (ofOutcomes outcomes).allCorrect ↔ outcomes ≠ [] ∧ ∀ correct ∈ outcomes, correct := by
  obtain ⟨-, wrong, all⟩ := toNat_ofOutcomes few
  have none_wrong : (ofOutcomes outcomes).incorrect = 0 ↔ ∀ correct ∈ outcomes, correct := by
    rw [← UInt32.toNat_inj, wrong, UInt32.toNat_zero, List.count_eq_zero]
    exact ⟨fun h correct mem => by cases correct <;> simp_all, fun h mem => by simpa using h _ mem⟩
  have some_outcome : (ofOutcomes outcomes).total > 0 ↔ outcomes ≠ [] := by
    rw [gt_iff_lt, UInt32.lt_iff_toNat_lt, all, UInt32.toNat_zero, List.length_pos_iff]
  rw [allCorrect, Bool.and_eq_true, beq_iff_eq, decide_eq_true_iff, none_wrong, some_outcome,
    and_comm]

end Tally

namespace AnswerKey

variable {es : List AnswerEntry} {e : AnswerEntry} {c : ClaimId} {marks : Marks}

/-- The last entry for a claim counts. -/
theorem get?_ofEntries (es : List AnswerEntry) (c : ClaimId) :
    (ofEntries es).get? c = es.findRev? (·.claim = c) := by
  rw [ofEntries, ClaimTable.get?_ofList, ← List.map_reverse, List.findRev?_eq_find?_reverse]
  induction es.reverse with
  | nil => rfl
  | cons e es ih =>
    rw [List.map_cons, ClaimTable.lookup_cons, ih, List.find?_cons]
    by_cases same : c = e.claim
    · simp [same]
    · simp [same, Ne.symm same]

/-- An entry stands under its own claim. -/
theorem claim_of_mem_entries (h : (c, e) ∈ (ofEntries es).entries) : e.claim = c := by
  rw [ClaimTable.mem_entries_iff, get?_ofEntries, List.findRev?_eq_find?_reverse] at h
  simpa using List.find?_some h

theorem mem_toList_ofEntries : e ∈ (ofEntries es).toList ↔ (ofEntries es).get? e.claim = some e := by
  rw [← ClaimTable.mem_entries_iff, toList, List.mem_map]
  constructor
  · rintro ⟨⟨c, e⟩, mem, rfl⟩
    rwa [claim_of_mem_entries mem]
  · exact fun mem => ⟨_, mem, rfl⟩

theorem claims_toList_ofEntries (es : List AnswerEntry) :
    (ofEntries es).toList.map (·.claim) = (ofEntries es).entries.map (·.1) := by
  rw [toList, List.map_map]
  exact List.map_congr_left fun entry mem => claim_of_mem_entries mem

theorem sorted_claims (es : List AnswerEntry) :
    ((ofEntries es).toList.map (·.claim)).Pairwise (· < ·) := by
  rw [claims_toList_ofEntries, List.pairwise_map]
  exact (ofEntries es).sorted

/-- The key knows the claims of its entries. -/
theorem mem_claims_iff : c ∈ (ofEntries es).toList.map (·.claim) ↔ c ∈ es.map (·.claim) := by
  have known : c ∈ es.map (·.claim) ↔ ((ofEntries es).get? c).isSome := by
    rw [get?_ofEntries, List.findRev?_eq_find?_reverse, List.find?_isSome]
    simp
  rw [known, Option.isSome_iff_exists, List.mem_map]
  constructor
  · rintro ⟨e, mem, rfl⟩
    exact ⟨e, mem_toList_ofEntries.1 mem⟩
  · rintro ⟨e, found⟩
    have same := claim_of_mem_entries (ClaimTable.mem_entries_iff.2 found)
    exact ⟨e, mem_toList_ofEntries.2 (same ▸ found), same⟩

/-- The key has an entry for each of the claims. -/
theorem length_toList_ofEntries (es : List AnswerEntry) :
    (ofEntries es).toList.length = (es.map (·.claim)).toFinset.card := by
  have nodup : ((ofEntries es).toList.map (·.claim)).Nodup :=
    (sorted_claims es).imp fun less => UInt32.ne_of_lt less
  have same : ((ofEntries es).toList.map (·.claim)).toFinset = (es.map (·.claim)).toFinset := by
    ext c
    rw [List.mem_toFinset, List.mem_toFinset, mem_claims_iff]
  rw [← same, List.toFinset_card_of_nodup nodup, List.length_map]

theorem claims_grade (key : AnswerKey) (marks : Marks) :
    (key.grade marks).claims.map (·.claim) = key.toList.map (·.claim) := by
  simp [grade, AnswerEntry.grade, Function.comp_def]

/-- Marks count for the claims of the key only. -/
theorem grade_congr {key : AnswerKey} {marks' : Marks}
    (same : ∀ e ∈ key.toList, marks'.get? e.claim = marks.get? e.claim) :
    key.grade marks' = key.grade marks := by
  have rows : key.toList.map (·.grade marks') = key.toList.map (·.grade marks) :=
    List.map_congr_left fun e mem => by simp only [AnswerEntry.grade, same e mem]
  simp only [grade, rows]

/-- What a report on any list of entries and any marks says, if the claims can be counted. It has one
row for each claim of the entries, in the order of the claims. A row holds the category of the last
entry for its claim and the mark, and it is right if they agree, or if there is no mark and the claim is
true. The counts are those of the rows, and all is correct exactly if something was graded and every row
is right. Marks on other claims do not show. -/
theorem report_of_entries (es : List AnswerEntry) (marks : Marks)
    (few : (es.map (·.claim)).toFinset.card < 2 ^ 32) :
    let r := (ofEntries es).grade marks
    (r.claims.map (·.claim)).Pairwise (· < ·) ∧
    (∀ c, c ∈ r.claims.map (·.claim) ↔ c ∈ es.map (·.claim)) ∧
    (∀ g ∈ r.claims, ∃ e, es.findRev? (·.claim = g.claim) = some e ∧ g.expected = e.category ∧
      g.marked = marks.get? g.claim ∧
      (g.correct ↔ g.marked = some g.expected ∨ g.marked = none ∧ g.expected = .supported)) ∧
    r.summary.correct.toNat = r.claims.countP (·.correct) ∧
    r.summary.incorrect.toNat = r.claims.countP (!·.correct) ∧
    r.summary.total.toNat = r.summary.correct.toNat + r.summary.incorrect.toNat ∧
    r.summary.total.toNat = (es.map (·.claim)).toFinset.card ∧
    r.mistakes.length = r.summary.incorrect.toNat ∧
    (r.summary.allCorrect ↔ es ≠ [] ∧ ∀ g ∈ r.claims, g.correct) ∧
    ∀ marks' : Marks, (∀ c ∈ es.map (·.claim), marks'.get? c = marks.get? c) →
      (ofEntries es).grade marks' = r := by
  intro r
  have size : r.claims.length = (es.map (·.claim)).toFinset.card := by
    rw [← length_toList_ofEntries]
    exact List.length_map ..
  have countable : (r.claims.map (·.correct)).length < 2 ^ 32 := by rwa [List.length_map, size]
  obtain ⟨right, wrong, all⟩ := Tally.toNat_ofOutcomes countable
  have summary : r.summary = .ofOutcomes (r.claims.map (·.correct)) := rfl
  rw [← summary] at right wrong all
  have rights : (r.claims.map (·.correct)).count true = r.claims.countP (·.correct) := by
    simp [List.count, List.countP_map, Function.comp_def]
  have wrongs : (r.claims.map (·.correct)).count false = r.claims.countP (!·.correct) := by
    simp [List.count, List.countP_map, Function.comp_def]
  have total := List.count_true_add_count_false (r.claims.map (·.correct))
  refine ⟨?_, ?_, ?_, right.trans rights, wrong.trans wrongs, by omega, ?_, ?_, ?_, ?_⟩
  · rw [claims_grade]
    exact sorted_claims es
  · intro c
    rw [claims_grade, mem_claims_iff]
  · intro g mem
    obtain ⟨e, he, rfl⟩ := List.mem_map.1 mem
    refine ⟨e, ?_, rfl, rfl, judge_iff⟩
    rw [← get?_ofEntries]
    exact mem_toList_ofEntries.1 he
  · rw [all, List.length_map, size]
  · rw [wrong, wrongs, Report.mistakes, List.countP_eq_length_filter]
  · have rows : r.claims ≠ [] ↔ es ≠ [] := by
      rw [← List.length_pos_iff, size, Finset.card_pos, List.toFinset_nonempty_iff, ne_eq,
        List.map_eq_nil_iff]
    rw [summary, Tally.allCorrect_ofOutcomes countable, ne_eq, List.map_eq_nil_iff, ← ne_eq, rows,
      List.forall_mem_map]
  · intro marks' same
    exact grade_congr fun e mem => same _ (mem_claims_iff.1 (List.mem_map_of_mem mem))

/-- Three claims, one of them listed twice, with a mark on two and on a claim that is not listed. -/
theorem report_of_repeated :
    let es : List AnswerEntry := [⟨8, .supported, none⟩, ⟨3, .supported, none⟩,
      ⟨5, .misleading, some "page"⟩, ⟨8, .fabricated, none⟩]
    let r := (ofEntries es).grade (.ofList [(8, .supported), (5, .misleading), (40, .fabricated)])
    (es.map (·.claim)).toFinset.card < 2 ^ 32 ∧ r.claims.map (·.claim) = [3, 5, 8] ∧
      r.mistakes.length = 1 ∧ r.summary.total.toNat = 3 ∧ ¬r.summary.allCorrect ∧
      r.claims = [⟨3, .supported, none, true⟩, ⟨5, .misleading, some .misleading, true⟩,
        ⟨8, .fabricated, some .supported, false⟩] := by
  intro es r
  have few : (es.map (·.claim)).toFinset.card < 2 ^ 32 := by decide
  obtain ⟨-, -, -, -, wrong, -, total, mistakes, all, -⟩ := report_of_entries es
    (.ofList [(8, .supported), (5, .misleading), (40, .fabricated)]) few
  refine ⟨few, by decide, mistakes.trans (wrong.trans (by decide)), total.trans (by decide), ?_,
    by decide⟩
  exact fun h => absurd (all.1 h).2 (by decide)

end AnswerKey

end Inquest
