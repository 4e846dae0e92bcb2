import Inquest.Category
/-!
# Tables by claim

A finite map from claims, kept in claim order. The order is part of the type, so two tables with the
same entries are equal. The lemmas say what `insert` and `ofList` do to `get?`. A player's marks are
such a table.
-/

namespace Inquest

/-- At most one value for each claim, in increasing order of claims. -/
@[ext] structure ClaimTable (α : Type) where
  entries : List (ClaimId × α)
  sorted : entries.Pairwise (·.1 < ·.1)

namespace ClaimTable

variable {α : Type}

def empty : ClaimTable α := ⟨[], .nil⟩

instance : Inhabited (ClaimTable α) := ⟨empty⟩

instance [DecidableEq α] : DecidableEq (ClaimTable α) := fun s t =>
  decidable_of_iff (s.entries = t.entries) ClaimTable.ext_iff.symm

def get? (t : ClaimTable α) (c : ClaimId) : Option α := t.entries.lookup c

def size (t : ClaimTable α) : Nat := t.entries.length

def isEmpty (t : ClaimTable α) : Bool := t.entries.isEmpty

/-- Puts `(c, a)` at its place among entries in claim order, instead of any entry for `c`. -/
def insertEntry (c : ClaimId) (a : α) : List (ClaimId × α) → List (ClaimId × α)
  | [] => [(c, a)]
  | e :: es =>
    if c < e.1 then (c, a) :: e :: es
    else if c = e.1 then (c, a) :: es
    else e :: insertEntry c a es

theorem mem_insertEntry {c : ClaimId} {a : α} {es : List (ClaimId × α)} {e : ClaimId × α}
    (h : e ∈ insertEntry c a es) : e = (c, a) ∨ e ∈ es := by
  induction es with
  | nil => simpa [insertEntry] using h
  | cons x xs ih => grind [insertEntry]

theorem sorted_insertEntry {c : ClaimId} {a : α} {es : List (ClaimId × α)}
    (h : es.Pairwise (·.1 < ·.1)) : (insertEntry c a es).Pairwise (·.1 < ·.1) := by
  induction es with
  | nil => simp [insertEntry]
  | cons x xs ih =>
    have hx := List.pairwise_cons.1 h
    rw [insertEntry]
    split
    · rename_i hc
      refine List.pairwise_cons.2 ⟨fun e he => ?_, h⟩
      rcases List.mem_cons.1 he with rfl | he
      · exact hc
      · exact UInt32.lt_trans hc (hx.1 e he)
    · split
      · rename_i hc
        exact List.pairwise_cons.2 ⟨fun e he => hc ▸ hx.1 e he, hx.2⟩
      · rename_i hlt hne
        refine List.pairwise_cons.2 ⟨fun e he => ?_, ih hx.2⟩
        rcases mem_insertEntry he with rfl | he
        · exact (UInt32.lt_or_lt_of_ne hne).resolve_left hlt
        · exact hx.1 e he

def insert (t : ClaimTable α) (c : ClaimId) (a : α) : ClaimTable α :=
  ⟨insertEntry c a t.entries, sorted_insertEntry t.sorted⟩

def erase (t : ClaimTable α) (c : ClaimId) : ClaimTable α :=
  ⟨t.entries.filter (·.1 != c), t.sorted.filter _⟩

/-- The table of a list of values, in which a later value for a claim replaces an earlier one. -/
def ofList (es : List (ClaimId × α)) : ClaimTable α :=
  es.foldl (fun t e => t.insert e.1 e.2) empty

theorem lookup_cons (e : ClaimId × α) (es : List (ClaimId × α)) (c : ClaimId) :
    (e :: es).lookup c = if c = e.1 then some e.2 else es.lookup c := by
  obtain ⟨d, a⟩ := e
  by_cases h : c = d
  · simp [h]
  · have other : (c == d) = false := beq_false_of_ne h
    simp [List.lookup_cons, other, h]

theorem lookup_insertEntry (c d : ClaimId) (a : α) (es : List (ClaimId × α)) :
    (insertEntry c a es).lookup d = if d = c then some a else es.lookup d := by
  induction es with
  | nil => exact lookup_cons _ _ _
  | cons e es ih =>
    unfold insertEntry
    split
    · rw [lookup_cons]
    · split
      · rename_i same
        rw [lookup_cons, lookup_cons, ← same]
        split <;> rfl
      · rename_i other
        rw [lookup_cons, lookup_cons, ih]
        grind

/-- A new value counts for its own claim only. -/
theorem get?_insert (t : ClaimTable α) (c d : ClaimId) (a : α) :
    (t.insert c a).get? d = if d = c then some a else t.get? d := lookup_insertEntry c d a t.entries

/-- Of several values for a claim the last one counts. -/
theorem get?_ofList (es : List (ClaimId × α)) (c : ClaimId) :
    (ofList es).get? c = es.reverse.lookup c := by
  have onto : ∀ t : ClaimTable α, (es.foldl (fun t e => t.insert e.1 e.2) t).get? c =
      (es.reverse.lookup c).or (t.get? c) := by
    induction es with
    | nil => exact fun t => rfl
    | cons e es ih =>
      intro t
      rw [List.foldl_cons, ih, get?_insert, List.reverse_cons, List.lookup_append, Option.or_assoc,
        lookup_cons]
      split <;> rfl
  exact (onto empty).trans Option.or_none

/-- The entries are the values that the claims have. -/
theorem mem_entries_iff {t : ClaimTable α} {c : ClaimId} {a : α} :
    (c, a) ∈ t.entries ↔ t.get? c = some a := by
  rw [get?, List.lookup_eq_some_iff]
  constructor
  · intro h
    obtain ⟨before, after, split⟩ := List.append_of_mem h
    refine ⟨before, after, split, fun e he => ?_⟩
    have sorted := t.sorted
    rw [split, List.pairwise_append] at sorted
    have less : e.1 < c := sorted.2.2 e he (c, a) List.mem_cons_self
    simpa using (UInt32.ne_of_lt less).symm
  · rintro ⟨before, after, split, -⟩
    simp [split]

end ClaimTable

abbrev Marks := ClaimTable Category

namespace Marks

/-- One highlighter click on a claim, with the claim's mark afterwards. -/
def toggle (m : Marks) (claim : ClaimId) (category : Category) : Marks × Option Category :=
  if m.get? claim = some category then (m.erase claim, none)
  else (m.insert claim category, some category)

end Marks

end Inquest
