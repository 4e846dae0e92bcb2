import Inquest.ClaimTable
import Inquest.Proofs.ClaimTable
/-!
# Highlighter clicks

The mark of a claim is what the clicks on that claim have made of it, one after the other. Clicks on
other claims do not show, so they may come in any order among those.
-/

namespace Inquest

/-- What a click makes of the mark of a claim: its own colour is cleared, any other is replaced. -/
def Category.clickOn (mark : Option Category) (category : Category) : Option Category :=
  if mark = some category then none else some category

/-- Only a claim without a mark, or with a mark of this colour, is as before after two clicks. -/
theorem Category.clickOn_clickOn_eq_iff {mark : Option Category} {category : Category} :
    clickOn (clickOn mark category) category = mark ↔ mark = none ∨ mark = some category := by
  unfold clickOn
  by_cases same : mark = some category
  · simp [same]
  · simp [same, eq_comm]

namespace Marks

def toggleAll (m : Marks) (clicks : List (ClaimId × Category)) : Marks :=
  clicks.foldl (fun m click => (m.toggle click.1 click.2).1) m

def clicksOn (claim : ClaimId) (clicks : List (ClaimId × Category)) : List Category :=
  (clicks.filter (·.1 = claim)).map (·.2)

variable {m : Marks} {c d : ClaimId} {category category' : Category}
  {clicks clicks' : List (ClaimId × Category)}

@[simp] theorem toggleAll_nil (m : Marks) : m.toggleAll [] = m := rfl
@[simp] theorem toggleAll_cons (m : Marks) (click : ClaimId × Category)
    (clicks : List (ClaimId × Category)) :
    m.toggleAll (click :: clicks) = (m.toggle click.1 click.2).1.toggleAll clicks := rfl

@[simp] theorem clicksOn_nil (claim : ClaimId) : clicksOn claim [] = [] := rfl
theorem clicksOn_cons (claim : ClaimId) (click : ClaimId × Category)
    (clicks : List (ClaimId × Category)) : clicksOn claim (click :: clicks) =
      if click.1 = claim then click.2 :: clicksOn claim clicks else clicksOn claim clicks := by
  by_cases here : click.1 = claim <;> simp [clicksOn, here]

/-- A click counts for its own claim only. -/
theorem get?_toggle (m : Marks) (c d : ClaimId) (category : Category) :
    (m.toggle c category).1.get? d =
      if d = c then Category.clickOn (m.get? c) category else m.get? d := by
  unfold toggle Category.clickOn
  split
  · exact ClaimTable.get?_erase m c d
  · exact ClaimTable.get?_insert m c d category

theorem snd_toggle (m : Marks) (c : ClaimId) (category : Category) :
    (m.toggle c category).2 = Category.clickOn (m.get? c) category := by
  unfold toggle Category.clickOn
  split <;> rfl

/-- The mark of a claim is made by the clicks on it. -/
theorem get?_toggleAll (m : Marks) (clicks : List (ClaimId × Category)) (c : ClaimId) :
    (m.toggleAll clicks).get? c = (clicksOn c clicks).foldl Category.clickOn (m.get? c) := by
  induction clicks generalizing m with
  | nil => rfl
  | cons click clicks ih =>
    rw [toggleAll_cons, ih, get?_toggle, clicksOn_cons]
    by_cases here : click.1 = c
    · simp [here]
    · simp [here, Ne.symm here]

/-- Clicks that are the same on every claim lead to the same marks. -/
theorem toggleAll_congr (same : ∀ c, clicksOn c clicks' = clicksOn c clicks) :
    m.toggleAll clicks' = m.toggleAll clicks :=
  ClaimTable.ext_get? fun c => by rw [get?_toggleAll, get?_toggleAll, same]

/-- Clicks on two claims may change places. -/
theorem clicksOn_swap (apart : c ≠ d) (claim : ClaimId) :
    clicksOn claim [(d, category'), (c, category)] = clicksOn claim [(c, category), (d, category')] := by
  simp only [clicksOn_cons]
  by_cases here : c = claim
  · simp [here, here ▸ apart.symm]
  · simp [here]

theorem toggleAll_twice_iff : m.toggleAll [(c, category), (c, category)] = m ↔
    m.get? c = none ∨ m.get? c = some category := by
  -- Only the claim itself can differ, so the sets are compared there.
  have twice : ∀ d, (m.toggleAll [(c, category), (c, category)]).get? d =
      if d = c then Category.clickOn (Category.clickOn (m.get? c) category) category
      else m.get? d := by
    intro d
    by_cases here : d = c <;> simp [get?_toggle, here]
  rw [← Category.clickOn_clickOn_eq_iff]
  constructor
  · intro restored
    have here := twice c
    rw [restored, if_pos rfl] at here
    exact here.symm
  · intro restored
    refine ClaimTable.ext_get? fun d => ?_
    rw [twice, restored]
    split
    · rename_i here
      rw [here]
    · rfl

/-- What any clicks make of the marks in any list, of which the last one for a claim counts. Each claim
has the mark that the clicks on it lead to from the one it had, and a click tells the mark that it leaves.
Clicks on two claims may change places, and clicks that are the same on every claim lead to the same
marks. Marks are listed in the order of their claims, as many as there are claims with one. Two clicks of
one colour on a claim undo each other exactly if it had no mark or one of that colour. -/
theorem marks_of_clicks (pairs clicks : List (ClaimId × Category)) :
    let first : Marks := .ofList pairs
    let marks := first.toggleAll clicks
    (∀ c, first.get? c = pairs.reverse.lookup c) ∧
    (∀ c, marks.get? c = (clicksOn c clicks).foldl Category.clickOn (first.get? c)) ∧
    (∀ c category, (marks.toggle c category).2 = (marks.toggle c category).1.get? c) ∧
    (∀ c d category category', c ≠ d →
      marks.toggleAll [(d, category'), (c, category)] =
        marks.toggleAll [(c, category), (d, category')] ∧
      ((marks.toggle d category').1.toggle c category).2 = (marks.toggle c category).2) ∧
    (∀ clicks', (∀ c, clicksOn c clicks' = clicksOn c clicks) → first.toggleAll clicks' = marks) ∧
    (marks.entries.map (·.1)).Pairwise (· < ·) ∧
    (∀ c category, (c, category) ∈ marks.entries ↔ marks.get? c = some category) ∧
    marks.size = {c | marks.get? c ≠ none}.ncard ∧
    ∀ c category, marks.toggleAll [(c, category), (c, category)] = marks ↔
      marks.get? c = none ∨ marks.get? c = some category := by
  intro first marks
  refine ⟨ClaimTable.get?_ofList pairs, get?_toggleAll first clicks, ?_, ?_, ?_,
    marks.sorted_claims, fun _ _ => ClaimTable.mem_entries_iff, marks.size_eq_ncard,
    fun _ _ => toggleAll_twice_iff⟩
  · intro c category
    rw [snd_toggle, get?_toggle, if_pos rfl]
  · intro c d category category' apart
    refine ⟨toggleAll_congr (clicksOn_swap apart), ?_⟩
    rw [snd_toggle, snd_toggle, get?_toggle, if_neg apart]
  · intro clicks' same
    exact toggleAll_congr same

end Marks

namespace Scribbled

/-- Marks on two claims, one of which is marked twice. -/
def pairs : List (ClaimId × Category) := [(3, .supported), (3, .misleading), (7, .fabricated)]

def clicks : List (ClaimId × Category) :=
  [(3, .fabricated), (7, .fabricated), (3, .fabricated), (5, .supported)]

/-- The same clicks claim by claim. -/
def regrouped : List (ClaimId × Category) :=
  [(5, .supported), (7, .fabricated), (3, .fabricated), (3, .fabricated)]

theorem marks_of_regrouped :
    (∀ c, Marks.clicksOn c regrouped = Marks.clicksOn c clicks) ∧ (3 : ClaimId) ≠ 7 ∧
    let marks := Marks.toggleAll (.ofList pairs) clicks
    marks.entries = [(5, .supported)] ∧ Marks.toggleAll (.ofList pairs) regrouped = marks ∧
    marks.toggleAll [(7, .supported), (3, .misleading)] =
      marks.toggleAll [(3, .misleading), (7, .supported)] ∧
    {c | marks.get? c ≠ none}.ncard = 1 ∧
    marks.toggleAll [(5, .fabricated), (5, .fabricated)] ≠ marks := by
  have same : ∀ c, Marks.clicksOn c regrouped = Marks.clicksOn c clicks := by
    intro c
    simp only [regrouped, clicks, Marks.clicksOn_cons, Marks.clicksOn_nil]
    grind
  obtain ⟨-, -, -, swap, order, -, -, size, twice⟩ := Marks.marks_of_clicks pairs clicks
  refine ⟨same, by decide, by decide, order regrouped same,
    (swap 3 7 _ _ (by decide)).1, ?_, ?_⟩
  · rw [← size]
    decide
  · rw [ne_eq, twice]
    decide

end Scribbled

end Inquest
