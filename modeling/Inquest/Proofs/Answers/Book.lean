import Inquest.Proofs.Answers.Grading
import Inquest.Proofs.ClaimTable
import Inquest.Proofs.Results
import Inquest.Reference.Answers
import Mathlib.Data.List.Nodup
/-!
# Books that were read

A book that was read lists no claim twice for one suspect. So it does not matter how an entry of a file
is looked up: the first entry for a claim is the last one too, no entry is lost when the file is made a
key, and the order of the entries does not show.
-/

namespace Inquest

/-- There is nothing to object to if no claim is repeated and none was seen before. -/
theorem firstRepeated?_eq_none_iff {seen : List ClaimId} {es : List AnswerEntry} :
    firstRepeated? seen es = none ↔
      (es.map (·.claim)).Nodup ∧ ∀ c ∈ es.map (·.claim), c ∉ seen := by
  induction es generalizing seen with
  | nil => simp [firstRepeated?]
  | cons e es ih =>
    rw [firstRepeated?]
    split
    · rename_i known
      refine iff_of_false nofun fun h => ?_
      exact h.2 e.claim (by simp) known
    · rename_i fresh
      rw [ih, List.map_cons, List.nodup_cons, List.forall_mem_cons]
      simp only [List.mem_cons, not_or, forall_and]
      constructor
      · rintro ⟨nodup, other, unseen⟩
        exact ⟨⟨fun mem => other _ mem rfl, nodup⟩, fresh, unseen⟩
      · rintro ⟨⟨other, nodup⟩, -, unseen⟩
        exact ⟨nodup, fun c mem same => other (same ▸ mem), unseen⟩

/-- Entries of which no two are for one claim. -/
def Distinct (es : List AnswerEntry) : Prop := (es.map (·.claim)).Nodup

instance (es : List AnswerEntry) : Decidable (Distinct es) :=
  inferInstanceAs (Decidable (es.map (·.claim)).Nodup)

theorem firstRepeated?_nil_eq_none_iff {es : List AnswerEntry} :
    firstRepeated? [] es = none ↔ Distinct es := by
  simp [firstRepeated?_eq_none_iff, Distinct]

theorem SuspectFile.error?_eq_none_iff {f : SuspectFile} : f.error? = none ↔ Distinct f.entries := by
  rw [error?, Option.map_eq_none_iff, firstRepeated?_nil_eq_none_iff]

namespace Distinct

variable {es es' : List AnswerEntry} {e : AnswerEntry} {c : ClaimId}

theorem perm (h : Distinct es) (p : es'.Perm es) : Distinct es' := (p.map _).nodup_iff.2 h

/-- An entry is found under its claim. -/
theorem find?_eq_some_iff (h : Distinct es) :
    es.find? (·.claim = c) = some e ↔ e ∈ es ∧ e.claim = c := by
  constructor
  · intro found
    exact ⟨List.mem_of_find?_eq_some found, by simpa using List.find?_some found⟩
  · rintro ⟨mem, rfl⟩
    cases found : es.find? (·.claim = e.claim) with
    | none => simpa using List.find?_eq_none.1 found e mem
    | some e' =>
      have same : e'.claim = e.claim := by simpa using List.find?_some found
      rw [List.inj_on_of_nodup_map h (List.mem_of_find?_eq_some found) mem same]

/-- The order of the entries does not show. -/
theorem find?_perm (h : Distinct es) (p : es'.Perm es) (c : ClaimId) :
    es'.find? (·.claim = c) = es.find? (·.claim = c) := by
  ext e
  rw [(h.perm p).find?_eq_some_iff, h.find?_eq_some_iff, p.mem_iff]

/-- The entry that counts in the key is the first one for the claim. -/
theorem get?_ofEntries (h : Distinct es) (c : ClaimId) :
    (AnswerKey.ofEntries es).get? c = es.find? (·.claim = c) := by
  rw [AnswerKey.get?_ofEntries, List.findRev?_eq_find?_reverse]
  exact h.find?_perm es.reverse_perm c

theorem ofEntries_perm (h : Distinct es) (p : es'.Perm es) :
    AnswerKey.ofEntries es' = AnswerKey.ofEntries es := by
  refine ClaimTable.ext_get? fun c => ?_
  rw [(h.perm p).get?_ofEntries, h.get?_ofEntries, h.find?_perm p]

/-- No entry is lost when they are made a key. -/
theorem size_ofEntries (h : Distinct es) : (AnswerKey.ofEntries es).size = es.length := by
  have rows := AnswerKey.length_toList_ofEntries es
  rw [List.toFinset_card_of_nodup h, List.length_map] at rows
  rwa [AnswerKey.toList, List.length_map] at rows

end Distinct

namespace Book

/-- No suspect's file has two entries for one claim. -/
def Sound (b : Book) : Prop := ∀ f ∈ b.suspects, Distinct f.entries

instance (b : Book) : Decidable b.Sound :=
  inferInstanceAs (Decidable (∀ f ∈ b.suspects, Distinct f.entries))

/-- The book comes of reading a text, in whatever way texts are read. -/
def Parsed (b : Book) (read : Ron.Reading Book) : Prop := ∃ text, parseWith read text = .ok b

variable {b b' : Book} {f : SuspectFile} {name : String} {read : Ron.Reading Book}

theorem sound_reference : Reference.book.Sound := by decide

/-- The check gives back the sound books and refuses all others. -/
theorem check_eq_ok_iff : b.check = .ok b' ↔ b' = b ∧ b.Sound := by
  have quiet : b.suspects.findSome? (·.error?) = none ↔ b.Sound := by
    simp [List.findSome?_eq_none_iff, SuspectFile.error?_eq_none_iff, Sound]
  rw [← quiet, check]
  split
  · rename_i blamed
    simp [blamed]
  · rename_i accepted
    simp [accepted, eq_comm]

theorem Parsed.sound (h : b.Parsed read) : b.Sound := by
  obtain ⟨text, h⟩ := h
  obtain ⟨written, -, checked⟩ := bind_eq_ok_iff.1 h
  obtain ⟨rfl, sound⟩ := check_eq_ok_iff.1 checked
  exact sound

theorem parsed_of_ofFile {file : FileText} (h : ofFile file = .ok b) :
    b.Parsed (Ron.parse decode) := by
  cases file with
  | error e => cases h
  | ok text => exact ⟨text, h⟩

theorem Sound.distinct (h : b.Sound) (found : b.suspect? name = some f) : Distinct f.entries :=
  h f (List.mem_of_find?_eq_some found)

/-- The second book is the first with the entries of its files in some other order. -/
def Shuffled (b b' : Book) : Prop :=
  List.Forall₂ (fun f f' => f'.name = f.name ∧ f'.entries.Perm f.entries) b.suspects b'.suspects

/-- Both books have a file for the suspect, with the same entries, or neither has one. -/
theorem Shuffled.suspect? (h : b.Shuffled b') (name : String) :
    b.suspect? name = none ∧ b'.suspect? name = none ∨
      ∃ f f', b.suspect? name = some f ∧ b'.suspect? name = some f' ∧ f'.entries.Perm f.entries := by
  obtain ⟨fs⟩ := b
  obtain ⟨fs'⟩ := b'
  have files : List.Forall₂ (fun f f' => f'.name = f.name ∧ f'.entries.Perm f.entries) fs fs' := h
  unfold Book.suspect?
  clear h
  induction files with
  | nil => exact .inl ⟨rfl, rfl⟩
  | @cons f f' fs fs' same _ ih =>
    obtain ⟨names, perm⟩ := same
    by_cases here : f.name = name
    · have here' : f'.name = name := names.trans here
      exact .inr ⟨f, f', by simp [here], by simp [here'], perm⟩
    · have elsewhere : f'.name ≠ name := by rwa [names]
      simpa [here, elsewhere] using ih

end Book

end Inquest
