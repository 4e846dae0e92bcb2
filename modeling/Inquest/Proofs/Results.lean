import Mathlib.Data.List.Forall2
/-!
# Results that may be missing

A step gives a result, or an error that says why there is none. What is made of several steps has a
result if each of them has one, and else the error of the first that has none.
-/

namespace Inquest

/-- Why there is no result. -/
def fault? {ε α : Type} : Except ε α → Option ε
  | .error e => some e
  | .ok _ => none

variable {ε δ α β : Type} {e : ε} {r : Except ε α}

theorem fault?_eq_some_iff : fault? r = some e ↔ r = .error e := by
  cases r <;> simp [fault?]

theorem fault?_eq_none_iff : fault? r = none ↔ ∃ a, r = .ok a := by
  cases r <;> simp [fault?]

theorem fault?_map (f : α → β) (r : Except ε α) : fault? (r.map f) = fault? r := by
  cases r <;> rfl

theorem map_eq_ok_iff {f : α → β} {b : β} : r.map f = .ok b ↔ ∃ a, r = .ok a ∧ f a = b := by
  cases r <;> simp [Except.map]

theorem fault?_mapError (f : ε → δ) (r : Except ε α) :
    fault? (r.mapError f) = (fault? r).map f := by
  cases r <;> rfl

/-- Of several results got one after the other the first fault counts. -/
theorem fault?_mapM (f : α → Except ε β) (as : List α) :
    fault? (as.mapM f) = as.findSome? (fault? <| f ·) := by
  induction as with
  | nil => rfl
  | cons a as ih =>
    rw [List.mapM_cons, List.findSome?_cons, ← ih]
    cases f a with
    | error e => rfl
    | ok b => cases as.mapM f <;> rfl

/-- What is done in two steps is done if each of them is. -/
theorem bind_eq_ok_iff {f : α → Except ε β} {b : β} :
    r >>= f = .ok b ↔ ∃ a, r = .ok a ∧ f a = .ok b := by
  cases r <;> simp [bind, Except.bind]

theorem mapError_eq_ok_iff {f : ε → δ} {a : α} : r.mapError f = .ok a ↔ r = .ok a := by
  cases r <;> simp [Except.mapError]

/-- Several results are got one by one. -/
theorem mapM_eq_ok_iff {f : α → Except ε β} {as : List α} {bs : List β} :
    as.mapM f = .ok bs ↔ List.Forall₂ (fun a b => f a = .ok b) as bs := by
  induction as generalizing bs with
  | nil => simp [pure, Except.pure, eq_comm]
  | cons a as ih =>
    rw [List.mapM_cons, List.forall₂_cons_left_iff]
    cases ha : f a with
    | error e => simp [bind, Except.bind]
    | ok b =>
      simp only [← ih]
      cases as.mapM f <;> simp [bind, Except.bind, pure, Except.pure, eq_comm]

theorem exists_mem_of_forall₂ {R : α → β → Prop} {as : List α} {bs : List β} {a : α}
    (h : List.Forall₂ R as bs) (mem : a ∈ as) : ∃ b ∈ bs, R a b := by
  obtain ⟨i, bound, rfl⟩ := List.getElem_of_mem mem
  have bound' : i < bs.length := h.length_eq ▸ bound
  exact ⟨bs[i], List.getElem_mem bound', h.get bound bound'⟩

end Inquest
