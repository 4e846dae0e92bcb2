import Inquest.Proofs.Agenda.Clock
import Mathlib.Data.List.Induction
import Mathlib.Data.List.ReduceOption
/-!
# The roster of an agenda

Whoever holds an agenda may plan tasks, take off what is due and move the clock as they like. All that
waits could as well stand on a roster, which lists it in the order in which it was planned. Nothing
comes off while nothing on the roster is due. Else what comes off has the least due time, and of the
tasks due at that time it was planned first.
-/

namespace Inquest

inductive Request where
  | schedule (delay : Millis) (task : Task)
  | pop (target : Millis)
  | settle (target : Millis)

def Request.planned? : Request → Option Task
  | schedule _ task => some task
  | _ => none

def planned (qs : List Request) : List Task := qs.filterMap (·.planned?)

theorem planned_cons (q : Request) (qs : List Request) :
    planned (q :: qs) = q.planned?.toList ++ planned qs := by
  cases q <;> rfl

/-- Requests are served one after the other, each with the task that comes off, by whatever serves a
single one. -/
inductive Serves {σ : Type} (serve : σ → Request → Option Task → σ → Prop) :
    σ → List Request → List (Option Task) → σ → Prop where
  | nil {s : σ} : Serves serve s [] [] s
  | cons {s t u : σ} {q : Request} {qs : List Request} {x : Option Task} {xs : List (Option Task)}
    (first : serve s q x t) (others : Serves serve t qs xs u) :
    Serves serve s (q :: qs) (x :: xs) u

/-- A clock with what waits, in the order in which it was planned. -/
structure Roster where
  now : Millis := 0
  timers : List Timer := []

/-- How a roster serves a request: what is planned goes to the end, and what comes off is the first of
those that are due first. -/
inductive Roster.Serve (r : Roster) : Request → Option Task → Roster → Prop where
  | schedule {delay : Millis} {task : Task} : Serve r (.schedule delay task) none
      { r with timers := r.timers ++ [⟨.ofNat (r.now.val + delay.val), task⟩] }
  | wait {target : Millis} (later : ∀ t ∈ r.timers, target < t.due) : Serve r (.pop target) none r
  | pop {target : Millis} {first : Timer} {before after : List Timer}
      (waiting : r.timers = before ++ first :: after) (due : first.due ≤ target)
      (ahead : ∀ t ∈ before, first.due < t.due) (behind : ∀ t ∈ after, first.due ≤ t.due) :
    Serve r (.pop target) (some first.task) ⟨max r.now first.due, before ++ after⟩
  | settle {target : Millis} : Serve r (.settle target) none { r with now := max r.now target }

/-- There is one way to split a list at the first of its timers that are due first. -/
theorem Roster.first_unique {before before' after after' : List Timer} {first first' : Timer}
    (same : before ++ first :: after = before' ++ first' :: after')
    (ahead : ∀ t ∈ before, first.due < t.due) (behind : ∀ t ∈ after, first.due ≤ t.due)
    (ahead' : ∀ t ∈ before', first'.due < t.due) (behind' : ∀ t ∈ after', first'.due ≤ t.due) :
    before = before' ∧ first = first' ∧ after = after' := by
  have clash : ∀ {a b : Timer}, a.due < b.due → ¬b.due ≤ a.due := fun h k => Millis.not_le.2 h k
  rcases List.append_eq_append_iff.1 same with ⟨more, hb, ha⟩ | ⟨more, hb, ha⟩
  · cases more with
    | nil => simp_all
    | cons t ts =>
      obtain ⟨rfl, rfl⟩ := List.cons.inj ha
      exact absurd (behind first' (by simp)) (clash (ahead' first (by simp [hb])))
  · cases more with
    | nil => simp_all
    | cons t ts =>
      obtain ⟨rfl, rfl⟩ := List.cons.inj ha
      exact absurd (behind' first (by simp)) (clash (ahead first' (by simp [hb])))

/-- A roster serves a request in one way. -/
theorem Roster.Serve.unique {r r₁ r₂ : Roster} {q : Request} {x y : Option Task}
    (h₁ : r.Serve q x r₁) (h₂ : r.Serve q y r₂) : x = y ∧ r₁ = r₂ := by
  have waits : ∀ {target : Millis} {before after : List Timer} {first : Timer},
      (∀ t ∈ r.timers, target < t.due) → r.timers = before ++ first :: after →
        ¬first.due ≤ target := by
    intro target before after first later waiting
    exact fun due => Millis.not_le.2 (later first (by simp [waiting])) due
  cases h₁ with
  | schedule | settle =>
    cases h₂
    exact ⟨rfl, rfl⟩
  | wait later =>
    cases h₂ with
    | wait => exact ⟨rfl, rfl⟩
    | pop waiting due => exact absurd due (waits later waiting)
  | pop waiting due ahead behind =>
    cases h₂ with
    | wait later => exact absurd due (waits later waiting)
    | pop waiting' due' ahead' behind' =>
      obtain ⟨rfl, rfl, rfl⟩ :=
        first_unique (waiting.symm.trans waiting') ahead behind ahead' behind'
      exact ⟨rfl, rfl⟩

theorem Roster.serves_unique {r r₁ r₂ : Roster} {qs : List Request} {xs ys : List (Option Task)}
    (h₁ : Serves Serve r qs xs r₁) (h₂ : Serves Serve r qs ys r₂) : xs = ys ∧ r₁ = r₂ := by
  induction h₁ generalizing ys with
  | nil =>
    cases h₂
    exact ⟨rfl, rfl⟩
  | cons first _ ih =>
    cases h₂ with
    | cons first' others' =>
      obtain ⟨rfl, rfl⟩ := first.unique first'
      obtain ⟨rfl, rfl⟩ := ih others'
      exact ⟨rfl, rfl⟩

/-- What comes off and what still waits is what waited and what was planned. -/
theorem Roster.Serve.perm {r r' : Roster} {q : Request} {x : Option Task} (h : r.Serve q x r') :
    (x.toList ++ r'.timers.map (·.task)).Perm (r.timers.map (·.task) ++ q.planned?.toList) := by
  cases h with
  | schedule => simp [Request.planned?]
  | wait | settle => simp [Request.planned?]
  | pop waiting =>
    simp only [waiting, Request.planned?, List.map_append, List.map_cons, Option.toList_some,
      Option.toList_none, List.append_nil, List.singleton_append]
    exact List.perm_middle.symm

theorem Roster.perm_of_serves {r r' : Roster} {qs : List Request} {xs : List (Option Task)}
    (h : Serves Serve r qs xs r') :
    (xs.reduceOption ++ r'.timers.map (·.task)).Perm (r.timers.map (·.task) ++ planned qs) := by
  induction h with
  | nil => simp [planned]
  | @cons r s u q qs x xs first _ ih =>
    have came : (x :: xs).reduceOption = x.toList ++ xs.reduceOption := by cases x <;> rfl
    rw [came, planned_cons, List.append_assoc, ← List.append_assoc (r.timers.map _)]
    refine (ih.append_left x.toList).trans ?_
    rw [← List.append_assoc]
    exact first.perm.append_right _

namespace Agenda

/-- Serves a request, and gives the task that comes off. -/
def serve (a : Agenda) : Request → Agenda × Option Task
  | .schedule delay task => (a.schedule delay task, none)
  | .pop target => ((a.popDue? target).elim a (·.2), (a.popDue? target).map (·.1))
  | .settle target => (a.settle target, none)

def serveAll (a : Agenda) (qs : List Request) : Agenda := qs.foldl (fun a q => (a.serve q).1) a

def answers (a : Agenda) : List Request → List (Option Task)
  | [] => []
  | q :: qs => (a.serve q).2 :: (a.serve q).1.answers qs

@[simp] theorem serveAll_nil (a : Agenda) : a.serveAll [] = a := rfl
@[simp] theorem serveAll_cons (a : Agenda) (q : Request) (qs : List Request) :
    a.serveAll (q :: qs) = (a.serve q).1.serveAll qs := rfl
@[simp] theorem answers_nil (a : Agenda) : a.answers [] = [] := rfl
@[simp] theorem answers_cons (a : Agenda) (q : Request) (qs : List Request) :
    a.answers (q :: qs) = (a.serve q).2 :: (a.serve q).1.answers qs := rfl

variable {a : Agenda} {r : Roster} {ts rest : List Timer} {t : Timer}

theorem now_le_serve (a : Agenda) (q : Request) : a.now ≤ (a.serve q).1.now := by
  cases q with
  | schedule => exact Millis.le_refl _
  | settle => exact Millis.le_max_left _ _
  | pop target =>
    cases hp : a.popDue? target with
    | none =>
      simp only [serve, hp]
      exact Millis.le_refl _
    | some popped =>
      obtain ⟨due, -, -, now⟩ := popDue?_eq_some_iff.1 hp
      simp only [serve, hp, Option.elim_some, now]
      exact Millis.le_max_left _ _

theorem now_le_serveAll (a : Agenda) (qs : List Request) : a.now ≤ (a.serveAll qs).now := by
  induction qs generalizing a with
  | nil => exact Millis.le_refl _
  | cons q qs ih => exact Millis.le_trans (a.now_le_serve q) (ih _)

/-- Timers as they wait on an agenda after they were put on one after the other. -/
def arranged (ts : List Timer) : List Timer := ts.foldl (fun xs t => insertTimer t xs) []

theorem arranged_concat (ts : List Timer) (t : Timer) :
    arranged (ts ++ [t]) = insertTimer t (arranged ts) := by
  simp [arranged]

theorem perm_arranged (ts : List Timer) : (arranged ts).Perm ts := by
  induction ts using List.reverseRecOn with
  | nil => exact .refl _
  | append_singleton ts t ih =>
    rw [arranged_concat]
    exact ((perm_insertTimer t _).trans (ih.cons t)).trans (List.perm_append_singleton t ts).symm

theorem sorted_arranged (ts : List Timer) : (arranged ts).Pairwise (·.due ≤ ·.due) := by
  induction ts using List.reverseRecOn with
  | nil => exact .nil
  | append_singleton ts t ih =>
    rw [arranged_concat]
    exact sorted_insertTimer ih

/-- In front of all that is arranged is the first of those that are due first, and behind it the
others are arranged. -/
theorem exists_of_arranged_eq_cons (h : arranged ts = t :: rest) :
    ∃ before after, ts = before ++ t :: after ∧ rest = arranged (before ++ after) ∧
      (∀ x ∈ before, t.due < x.due) ∧ ∀ x ∈ after, t.due ≤ x.due := by
  induction ts using List.reverseRecOn generalizing t rest with
  | nil => cases h
  | append_singleton ts new ih =>
    rw [arranged_concat] at h
    cases hs : arranged ts with
    | nil =>
      have empty : ts = [] := by simpa [hs] using (perm_arranged ts).symm
      subst empty
      rw [hs, insertTimer] at h
      cases h
      exact ⟨[], [], rfl, rfl, by simp, by simp⟩
    | cons first others =>
      rw [hs, insertTimer] at h
      split at h
      · rename_i behind_first
        cases h
        obtain ⟨before, after, rfl, rfl, ahead, behind⟩ := ih hs
        refine ⟨before, after ++ [new], by simp, ?_, ahead, ?_⟩
        · rw [← List.append_assoc, arranged_concat]
        · intro x hx
          rcases List.mem_append.1 hx with old | last
          · exact behind x old
          · rwa [List.mem_singleton.1 last]
      · -- The new timer is due before all that were there.
        rename_i before_first
        cases h
        refine ⟨ts, [], rfl, by rw [List.append_nil, hs], fun x hx => ?_, by simp⟩
        have least : first.due ≤ x.due := by
          have arranged_mem : x ∈ first :: others := hs ▸ (perm_arranged ts).mem_iff.2 hx
          have sorted := hs ▸ sorted_arranged ts
          rcases List.mem_cons.1 arranged_mem with rfl | later
          · exact Millis.le_refl _
          · exact (List.pairwise_cons.1 sorted).1 x later
        rw [Millis.not_le, Millis.lt_def] at before_first
        rw [Millis.le_def] at least
        rw [Millis.lt_def]
        omega

/-- The agenda has on it what the roster lists, arranged. -/
structure Keeps (a : Agenda) (r : Roster) : Prop where
  now : a.now = r.now
  pending : a.pending = arranged r.timers

theorem keeps_empty : empty.Keeps {} := ⟨rfl, rfl⟩

theorem Keeps.mem_iff (h : a.Keeps r) : t ∈ a.pending ↔ t ∈ r.timers := by
  rw [h.pending]
  exact (perm_arranged r.timers).mem_iff

/-- A request is served the same from the agenda and from the roster. -/
theorem Keeps.serve (h : a.Keeps r) (q : Request) :
    ∃ r', r.Serve q (a.serve q).2 r' ∧ (a.serve q).1.Keeps r' := by
  cases q with
  | schedule delay task =>
    refine ⟨_, .schedule, h.now, ?_⟩
    rw [arranged_concat, ← h.pending, ← h.now]
    rfl
  | settle target =>
    refine ⟨_, .settle, ?_, h.pending⟩
    rw [← h.now]
    rfl
  | pop target =>
    cases hp : a.popDue? target with
    | none =>
      simp only [Agenda.serve, hp]
      refine ⟨r, .wait fun t ht => ?_, h⟩
      exact popDue?_eq_none_iff_forall.1 hp t (h.mem_iff.2 ht)
    | some popped =>
      obtain ⟨task, b⟩ := popped
      simp only [Agenda.serve, hp]
      obtain ⟨due, pending, hd, now⟩ := popDue?_eq_some_iff.1 hp
      obtain ⟨before, after, waiting, behind, ahead, later⟩ :=
        exists_of_arranged_eq_cons (h.pending.symm.trans pending)
      refine ⟨_, .pop waiting hd ahead later, ?_, behind⟩
      rw [← h.now]
      exact now

/-- Requests are served the same from the agenda and from the roster. -/
theorem Keeps.serveAll (h : a.Keeps r) (qs : List Request) :
    ∃ r', Serves Roster.Serve r qs (a.answers qs) r' ∧ (a.serveAll qs).Keeps r' := by
  induction qs generalizing a r with
  | nil => exact ⟨r, .nil, h⟩
  | cons q qs ih =>
    obtain ⟨s, first, kept⟩ := h.serve q
    obtain ⟨r', others, kept'⟩ := ih kept
    exact ⟨r', .cons first others, kept'⟩

end Agenda

end Inquest
