import Inquest.Proofs.Answers.Book
/-!
# Claims that are listed twice

A book is refused for a claim that is listed twice in one file. The blame falls on the first such file,
and there on the first entry whose claim an earlier entry has. What other files list does not matter, not
even those of the same suspect.
-/

namespace Inquest

variable {es : List AnswerEntry} {e : AnswerEntry} {seen : List ClaimId} {c : ClaimId} {j k : Nat}

/-- A claim is listed at a place, and at one before it too. -/
def RepeatsAt (es : List AnswerEntry) (j : Nat) (c : ClaimId) : Prop :=
  (es.map (·.claim))[j]? = some c ∧ ∃ i < j, (es.map (·.claim))[i]? = some c

theorem repeatsAt_iff_mem_take : RepeatsAt es j c ↔
    (es[j]?).map (·.claim) = some c ∧ c ∈ (es.take j).map (·.claim) := by
  rw [RepeatsAt, List.getElem?_map, List.map_take, List.mem_iff_getElem?, and_congr_right_iff]
  intro _
  constructor
  · rintro ⟨i, earlier, same⟩
    exact ⟨i, by rwa [List.getElem?_take_of_lt earlier]⟩
  · rintro ⟨i, same⟩
    rw [List.getElem?_take, Option.ite_none_right_eq_some] at same
    exact ⟨i, same⟩

theorem repeatsAt_take : RepeatsAt (es.take j) k c ↔ k < j ∧ RepeatsAt es k c := by
  simp only [RepeatsAt, List.map_take, List.getElem?_take, Option.ite_none_right_eq_some]
  constructor
  · rintro ⟨⟨less, here⟩, i, earlier, -, same⟩
    exact ⟨less, here, i, earlier, same⟩
  · rintro ⟨less, here, i, earlier, same⟩
    exact ⟨⟨less, here⟩, i, earlier, earlier.trans less, same⟩

/-- Entries are for distinct claims if none repeats the claim of another. -/
theorem distinct_iff_not_repeatsAt : Distinct es ↔ ∀ j c, ¬RepeatsAt es j c := by
  rw [Distinct, List.nodup_iff_getElem?_ne_getElem?]
  constructor
  · rintro apart j c ⟨here, i, earlier, same⟩
    exact apart i j earlier (List.getElem?_eq_some_iff.1 here).1 (same.trans here.symm)
  · intro once i j earlier later same
    have here := List.getElem?_eq_getElem later
    exact once j _ ⟨here, i, earlier, same.trans here⟩

theorem distinct_take_iff : Distinct (es.take j) ↔ ∀ k < j, ∀ c, ¬RepeatsAt es k c := by
  simp only [distinct_iff_not_repeatsAt, repeatsAt_take, not_and]
  exact forall_congr' fun k => forall_comm

/-- The entry found is for a claim that occurred before, and nothing is found before it. -/
theorem firstRepeated?_eq_some_iff : firstRepeated? seen es = some e ↔ ∃ j, es[j]? = some e ∧
    (e.claim ∈ seen ∨ e.claim ∈ (es.take j).map (·.claim)) ∧ firstRepeated? seen (es.take j) = none := by
  induction es generalizing seen with
  | nil => simp [firstRepeated?]
  | cons a es ih =>
    rw [firstRepeated?]
    split
    · rename_i known
      constructor
      · rintro ⟨⟩
        exact ⟨0, rfl, .inl known, rfl⟩
      · rintro ⟨j, here, -, quiet⟩
        cases j with
        | zero => simpa using here
        | succ j => simp [firstRepeated?, known] at quiet
    · rename_i fresh
      -- What is found behind the first entry is found one place further on.
      have shift : ∀ j, (es[j]? = some e ∧
            (e.claim ∈ a.claim :: seen ∨ e.claim ∈ (es.take j).map (·.claim)) ∧
            firstRepeated? (a.claim :: seen) (es.take j) = none) ↔
          (a :: es)[j + 1]? = some e ∧
            (e.claim ∈ seen ∨ e.claim ∈ ((a :: es).take (j + 1)).map (·.claim)) ∧
            firstRepeated? seen ((a :: es).take (j + 1)) = none := by
        intro j
        simp [firstRepeated?, fresh, or_assoc, or_left_comm]
      rw [ih]
      constructor
      · rintro ⟨j, found⟩
        exact ⟨j + 1, (shift j).1 found⟩
      · rintro ⟨j, here, before, quiet⟩
        cases j with
        | zero =>
          obtain rfl : a = e := Option.some.inj here
          simp [fresh] at before
        | succ j => exact ⟨j, (shift j).2 ⟨here, before, quiet⟩⟩

/-- A file is to blame for the claim at the first place that repeats one. -/
theorem SuspectFile.error?_eq_some_iff {f : SuspectFile} {cause : BookError} :
    f.error? = some cause ↔ ∃ j c, RepeatsAt f.entries j c ∧
      (∀ k < j, ∀ d, ¬RepeatsAt f.entries k d) ∧ cause = .duplicateClaim f.name c := by
  have first : ∀ j, firstRepeated? [] (f.entries.take j) = none ↔
      ∀ k < j, ∀ d, ¬RepeatsAt f.entries k d :=
    fun j => firstRepeated?_nil_eq_none_iff.trans distinct_take_iff
  rw [error?, Option.map_eq_some_iff]
  constructor
  · rintro ⟨e, found, rfl⟩
    obtain ⟨j, here, before, quiet⟩ := firstRepeated?_eq_some_iff.1 found
    refine ⟨j, e.claim, repeatsAt_iff_mem_take.2 ⟨by rw [here]; rfl, ?_⟩, (first j).1 quiet, rfl⟩
    exact before.resolve_left List.not_mem_nil
  · rintro ⟨j, c, repeats, earliest, rfl⟩
    obtain ⟨here, before⟩ := repeatsAt_iff_mem_take.1 repeats
    obtain ⟨e, entry, rfl⟩ := Option.map_eq_some_iff.1 here
    exact ⟨e, firstRepeated?_eq_some_iff.2 ⟨j, entry, .inr before, (first j).2 earliest⟩, rfl⟩

namespace Book

variable {b : Book} {cause : BookError} {read : Ron.Reading Book}

/-- The first file that lists a claim twice is to blame. -/
theorem check_eq_error_iff : b.check = .error cause ↔ ∃ before f after,
    b.suspects = before ++ f :: after ∧ (∀ g ∈ before, Distinct g.entries) ∧
      f.error? = some cause := by
  have blames : b.check = .error cause ↔ b.suspects.findSome? (·.error?) = some cause := by
    rw [check]
    split
    · rename_i blamed
      simp [blamed]
    · rename_i accepted
      simp [accepted]
  rw [blames, List.findSome?_eq_some_iff]
  simp only [SuspectFile.error?_eq_none_iff, and_comm]

theorem parseWith_of_read {x : String} (written : read x = .ok b) :
    parseWith read x = b.check := by
  rw [parseWith, written]
  rfl

/-- A book that is written in a text, in whatever notation, is read exactly if no file of it lists a claim
twice, and it is read as it is written. Otherwise the first file that does so is to blame, for the claim at
the first place that repeats one. Each file counts by itself: the book is read exactly if every file would
be read as the only one. -/
theorem repeats_of_parse (read : Ron.Reading Book) (x : String) (b : Book) (written : read x = .ok b) :
    (parseWith read x = .ok b ↔ ∀ f ∈ b.suspects, (f.entries.map (·.claim)).Nodup) ∧
    (∀ b', parseWith read x = .ok b' → b' = b) ∧
    (∀ cause, parseWith read x = .error cause ↔ ∃ before f after j c,
      b.suspects = before ++ f :: after ∧
      (∀ g ∈ before, (g.entries.map (·.claim)).Nodup) ∧ RepeatsAt f.entries j c ∧
      (∀ k < j, ∀ d, ¬RepeatsAt f.entries k d) ∧ cause = .duplicateClaim f.name c) ∧
    (parseWith read x = .ok b ↔ ∀ f ∈ b.suspects, check ⟨[f]⟩ = .ok ⟨[f]⟩) := by
  rw [parseWith_of_read written]
  refine ⟨?_, fun b' accepted => (check_eq_ok_iff.1 accepted).1, ?_, ?_⟩
  · rw [check_eq_ok_iff]
    exact and_iff_right rfl
  · intro cause
    rw [check_eq_error_iff]
    constructor
    · rintro ⟨before, f, after, split, sound, blamed⟩
      obtain ⟨j, c, repeats, earliest, rfl⟩ := SuspectFile.error?_eq_some_iff.1 blamed
      exact ⟨before, f, after, j, c, split, sound, repeats, earliest, rfl⟩
    · rintro ⟨before, f, after, j, c, split, sound, repeats, earliest, rfl⟩
      exact ⟨before, f, after, split, sound,
        SuspectFile.error?_eq_some_iff.2 ⟨j, c, repeats, earliest, rfl⟩⟩
  · simp [check_eq_ok_iff, Sound]

end Book

namespace Twofold

/-- A book with two files of one suspect that share a claim. The second lists another one twice. -/
def text : String := "(suspects:[(name:\"Ada\",entries:[(claim:4,category:Red)])," ++
  "(name:\"Ada\",entries:[(claim:4,category:Red),(claim:9,category:Red),(claim:9,category:Red)])])"

def book : Book := ⟨[⟨"Ada", [⟨4, .misleading, none⟩]⟩,
  ⟨"Ada", [⟨4, .misleading, none⟩, ⟨9, .misleading, none⟩, ⟨9, .misleading, none⟩]⟩]⟩

theorem repeats_of_second_file : Ron.parse Book.decode text = .ok book ∧
    Book.parse text = .error (.duplicateClaim "Ada" 9) := by
  have read : Ron.parse Book.decode text = .ok book := by decide +kernel
  obtain ⟨-, -, blame, -⟩ := Book.repeats_of_parse (Ron.parse Book.decode) text book read
  refine ⟨read, (blame _).2 ⟨[⟨"Ada", [⟨4, .misleading, none⟩]⟩], _, [], 2, 9, rfl, ?_, ?_, ?_, rfl⟩⟩
  · decide
  · exact ⟨by decide, 1, by decide, by decide⟩
  · exact distinct_take_iff.1 (by decide)

end Twofold

end Inquest
