import Inquest.Proofs.Agenda.Roster
import Mathlib.Algebra.Group.Nat.Defs
import Mathlib.Data.Multiset.MapFold
/-!
# Tickets

An agenda keeps its timers in order. It could as well throw them into a pool, numbered as they come,
and take out a greatest one, in the order in which a later time ranks lower and, at one time, a higher
number. As long as the numbers last no one can tell the two apart, and the pool hands out what the
roster has first.
-/

namespace Inquest

/-- A timer with the number that it got when it was planned. -/
structure Ticket where
  due : Millis
  number : UInt64
  task : Task

namespace Ticket

def timer (t : Ticket) : Timer := ⟨t.due, t.task⟩

/-- The order of tickets. The later ranks lower, and of two for one time the one with the higher
number; the task does not count. -/
def cmp (a b : Ticket) : Ordering :=
  (compare b.due.val a.due.val).then (compare b.number.toNat a.number.toNat)

theorem cmp_ne_gt_iff {a b : Ticket} :
    a.cmp b ≠ .gt ↔ b.due < a.due ∨ b.due = a.due ∧ b.number ≤ a.number := by
  rw [cmp, ne_eq, Ordering.then_eq_gt, Nat.compare_eq_gt, Nat.compare_eq_eq, Nat.compare_eq_gt,
    Millis.lt_def, Millis.ext_iff, UInt64.le_iff_toNat_le]
  omega

end Ticket

/-- A clock with tickets in no order, and the number of the next ticket. -/
structure Pool where
  now : Millis := 0
  next : UInt64 := 0
  tickets : Multiset Ticket := 0

namespace Pool

/-- A ticket that no other ticket of the pool is greater than. -/
def Greatest (p : Pool) (t : Ticket) : Prop := t ∈ p.tickets ∧ ∀ x ∈ p.tickets, x.cmp t ≠ .gt

/-- How a pool serves a request. Which of several greatest tickets it hands out is left open. -/
inductive Serve (p : Pool) : Request → Option Task → Pool → Prop where
  | schedule {delay : Millis} {task : Task} : Serve p (.schedule delay task) none
      ⟨p.now, p.next + 1, ⟨p.now + delay, p.next, task⟩ ::ₘ p.tickets⟩
  | idle {target : Millis} (empty : p.tickets = 0) : Serve p (.pop target) none p
  | wait {target : Millis} {t : Ticket} (top : p.Greatest t) (later : target < t.due) :
    Serve p (.pop target) none p
  | pop {target : Millis} {t : Ticket} {others : Multiset Ticket} (top : p.Greatest t)
      (due : t.due ≤ target) (tickets : p.tickets = t ::ₘ others) :
    Serve p (.pop target) (some t.task) { p with now := max p.now t.due, tickets := others }
  | settle {target : Millis} : Serve p (.settle target) none { p with now := max p.now target }

/-- The tickets of a pool in the order of their numbers. -/
structure Numbers (p : Pool) (ts : List Ticket) : Prop where
  tickets : p.tickets = ts
  sorted : ts.Pairwise (·.number < ·.number)
  below : ∀ t ∈ ts, t.number < p.next

/-- The roster that a pool amounts to when its tickets are put in the order of their numbers. -/
def roster (p : Pool) (ts : List Ticket) : Roster := ⟨p.now, ts.map (·.timer)⟩

variable {p p' : Pool} {ts before after : List Ticket} {t : Ticket} {q : Request}
  {qs : List Request} {x : Option Task} {xs : List (Option Task)}

/-- A greatest ticket is due no later than any other. -/
theorem Greatest.due_le (h : p.Greatest t) {x : Ticket} (hx : x ∈ p.tickets) : t.due ≤ x.due := by
  rcases Ticket.cmp_ne_gt_iff.1 (h.2 x hx) with less | ⟨same, -⟩
  · exact Millis.le_of_lt less
  · exact same ▸ Millis.le_refl _

theorem numbers_empty : Numbers {} [] := ⟨rfl, .nil, by simp⟩

/-- A greatest ticket is the first of those that are due first. -/
theorem Numbers.greatest_iff (h : p.Numbers (before ++ t :: after)) :
    p.Greatest t ↔ (∀ x ∈ before, t.due < x.due) ∧ ∀ x ∈ after, t.due ≤ x.due := by
  have mem : ∀ x, x ∈ p.tickets ↔ x ∈ before ∨ x = t ∨ x ∈ after := by simp [h.tickets]
  obtain ⟨-, later, earlier⟩ := List.pairwise_append.1 h.sorted
  have higher := (List.pairwise_cons.1 later).1
  constructor
  · intro top
    refine ⟨fun x hx => ?_, fun x hx => top.due_le ((mem x).2 (.inr (.inr hx)))⟩
    have lower : x.number < t.number := earlier x hx t (by simp)
    rcases Ticket.cmp_ne_gt_iff.1 (top.2 x ((mem x).2 (.inl hx))) with less | ⟨-, number⟩
    · exact less
    · exact absurd lower (UInt64.not_lt.2 number)
  · rintro ⟨ahead, behind⟩
    refine ⟨(mem t).2 (.inr (.inl rfl)), fun x hx => Ticket.cmp_ne_gt_iff.2 ?_⟩
    rcases (mem x).1 hx with hx | rfl | hx
    · exact .inl (ahead x hx)
    · exact .inr ⟨rfl, UInt64.le_refl _⟩
    · have later := behind x hx
      by_cases same : t.due = x.due
      · exact .inr ⟨same, UInt64.le_of_lt (higher x hx)⟩
      · rw [Millis.le_def] at later
        rw [Millis.ext_iff] at same
        exact .inl (Millis.lt_def.2 (by omega))

/-- Where there are tickets, one is the first of those that are due first. -/
theorem Numbers.exists_greatest (h : p.Numbers ts) (some_ticket : ts ≠ []) :
    ∃ t before after, ts = before ++ t :: after ∧ p.Greatest t := by
  cases front : Agenda.arranged (ts.map (·.timer)) with
  | nil =>
    have none : ts.map (·.timer) = [] := by
      simpa [front] using (Agenda.perm_arranged (ts.map (·.timer))).symm
    exact absurd (List.map_eq_nil_iff.1 none) some_ticket
  | cons first rest =>
    obtain ⟨b, a, split, -, ahead, behind⟩ := Agenda.exists_of_arranged_eq_cons front
    obtain ⟨before, others, rfl, rfl, eq⟩ := List.map_eq_append_iff.1 split
    obtain ⟨t, after, rfl, rfl, rfl⟩ := List.map_eq_cons_iff.1 eq
    refine ⟨t, before, after, rfl, h.greatest_iff.2 ⟨fun x hx => ?_, fun x hx => ?_⟩⟩
    · exact ahead x.timer (List.mem_map_of_mem hx)
    · exact behind x.timer (List.mem_map_of_mem hx)

/-- A pool can serve whatever is asked of it. -/
theorem Numbers.exists_serve (h : p.Numbers ts) (q : Request) : ∃ x p', p.Serve q x p' := by
  cases q with
  | schedule => exact ⟨_, _, .schedule⟩
  | settle => exact ⟨_, _, .settle⟩
  | pop target =>
    by_cases empty : ts = []
    · exact ⟨_, _, .idle (by simp [h.tickets, empty])⟩
    · obtain ⟨t, before, after, rfl, top⟩ := h.exists_greatest empty
      by_cases due : t.due ≤ target
      · obtain ⟨others, tickets⟩ := Multiset.exists_cons_of_mem top.1
        exact ⟨_, _, .pop top due tickets⟩
      · exact ⟨_, _, .wait top (Millis.not_le.1 due)⟩

/-- A ticket that gets the next number comes last, as long as there is a number after it. -/
theorem Numbers.concat (h : p.Numbers ts) (next : t.number = p.next)
    (room : p.next.toNat + 1 < 2 ^ 64) (now : Millis) :
    Numbers ⟨now, p.next + 1, t ::ₘ p.tickets⟩ (ts ++ [t]) := by
  have higher : p.next < p.next + 1 := by
    rw [UInt64.lt_iff_toNat_lt, UInt64.toNat_add]
    exact Nat.lt_of_lt_of_eq (Nat.lt_succ_self _) (Nat.mod_eq_of_lt room).symm
  refine ⟨?_, ?_, fun x hx => ?_⟩
  · rw [h.tickets]
    exact Multiset.coe_eq_coe.2 (List.perm_append_singleton _ ts).symm
  · refine List.pairwise_append.2 ⟨h.sorted, List.pairwise_singleton _ _, ?_⟩
    simpa [next] using h.below
  · rcases List.mem_append.1 hx with old | new
    · exact UInt64.lt_trans (h.below x old) higher
    · rwa [List.mem_singleton.1 new, next]

/-- The tickets that are left keep their order when one is taken out. -/
theorem Numbers.remove {others : Multiset Ticket} (h : p.Numbers (before ++ t :: after))
    (tickets : p.tickets = t ::ₘ others) (now : Millis) :
    Numbers { p with now, tickets := others } (before ++ after) := by
  have fewer : (before ++ after).Sublist (before ++ t :: after) :=
    (List.sublist_cons_self t after).append_left before
  refine ⟨(Multiset.cons_inj_right t).1 ?_, h.sorted.sublist fewer, ?_⟩
  · rw [← tickets, h.tickets]
    exact Multiset.coe_eq_coe.2 List.perm_middle
  · exact fun x hx => h.below x (fewer.subset hx)

/-- As long as the numbers last, what a pool does with a request the roster does as well. -/
theorem Numbers.serve (h : p.Numbers ts) (hs : p.Serve q x p')
    (room : p.next.toNat + q.planned?.toList.length < 2 ^ 64) :
    p'.next.toNat = p.next.toNat + q.planned?.toList.length ∧
      ∃ ts', p'.Numbers ts' ∧ (p.roster ts).Serve q x (p'.roster ts') := by
  cases hs with
  | @schedule delay task =>
    refine ⟨?_, ts ++ [⟨p.now + delay, p.next, task⟩], h.concat rfl room p.now, ?_⟩
    · rw [UInt64.toNat_add]
      exact Nat.mod_eq_of_lt room
    · simp only [roster, List.map_append]
      exact .schedule
  | idle empty =>
    have none : ts = [] := by simpa [h.tickets] using empty
    exact ⟨rfl, ts, h, .wait (by simp [roster, none])⟩
  | @wait target t top later =>
    refine ⟨rfl, ts, h, .wait (List.forall_mem_map.2 fun x hx => ?_)⟩
    have least : t.due ≤ x.due := top.due_le (by simpa [h.tickets] using hx)
    rw [Millis.lt_def] at later
    rw [Millis.le_def] at least
    exact Millis.lt_def.2 (Nat.lt_of_lt_of_le later least)
  | settle => exact ⟨rfl, ts, ⟨h.tickets, h.sorted, h.below⟩, .settle⟩
  | @pop target t others top due tickets =>
    obtain ⟨before, after, rfl⟩ := List.append_of_mem (by simpa [h.tickets] using top.1)
    obtain ⟨ahead, behind⟩ := h.greatest_iff.1 top
    have waiting : (p.roster (before ++ t :: after)).timers =
        before.map (·.timer) ++ t.timer :: after.map (·.timer) := by simp [roster]
    have served := Roster.Serve.pop waiting due (List.forall_mem_map.2 ahead)
      (List.forall_mem_map.2 behind)
    rw [← List.map_append] at served
    exact ⟨rfl, before ++ after, h.remove tickets _, served⟩

/-- As long as the numbers last, what a pool does with requests the roster does as well. -/
theorem Numbers.serves (h : p.Numbers ts) (hs : Serves Serve p qs xs p')
    (room : p.next.toNat + (planned qs).length < 2 ^ 64) :
    ∃ ts', p'.Numbers ts' ∧ Serves Roster.Serve (p.roster ts) qs xs (p'.roster ts') := by
  induction hs generalizing ts with
  | nil => exact ⟨ts, h, .nil⟩
  | cons first _ ih =>
    rw [planned_cons, List.length_append] at room
    obtain ⟨next, ts', numbers, served⟩ := h.serve first (by omega)
    obtain ⟨ts'', numbers', others⟩ := ih numbers (by omega)
    exact ⟨ts'', numbers', .cons served others⟩

/-- A pool can serve as many requests as its numbers last for. -/
theorem Numbers.exists_serves (h : p.Numbers ts) (qs : List Request)
    (room : p.next.toNat + (planned qs).length < 2 ^ 64) : ∃ xs p', Serves Serve p qs xs p' := by
  induction qs generalizing p ts with
  | nil => exact ⟨[], p, .nil⟩
  | cons q qs ih =>
    rw [planned_cons, List.length_append] at room
    obtain ⟨x, s, first⟩ := h.exists_serve q
    obtain ⟨next, ts', numbers, -⟩ := h.serve first (by omega)
    obtain ⟨xs, p', others⟩ := ih numbers (by omega)
    exact ⟨x :: xs, p', .cons first others⟩

end Pool

namespace Agenda

/-- What can be seen of an agenda is what the roster says. -/
structure Shows (a : Agenda) (r : Roster) : Prop where
  now : a.now = r.now
  size : a.size = r.timers.length
  isEmpty : a.isEmpty ↔ r.timers = []
  nextDue? : ∀ due, a.nextDue? = some due ↔
    (∃ t ∈ r.timers, t.due = due) ∧ ∀ t ∈ r.timers, due ≤ t.due
  waits : ∀ target, a.popDue? target = none ↔ ∀ t ∈ r.timers, target < t.due

variable {a : Agenda} {r : Roster}

/-- The first task is due at the least due time. -/
theorem nextDue?_eq_some_iff {due : Millis} : a.nextDue? = some due ↔
    (∃ t ∈ a.pending, t.due = due) ∧ ∀ t ∈ a.pending, due ≤ t.due := by
  obtain ⟨now, _ | ⟨first, rest⟩, sorted⟩ := a
  · simp [nextDue?]
  · have least : ∀ t ∈ first :: rest, first.due ≤ t.due := by
      intro t ht
      rcases List.mem_cons.1 ht with rfl | ht
      · exact Millis.le_refl _
      · exact (List.pairwise_cons.1 sorted).1 t ht
    simp only [nextDue?, List.head?_cons, Option.map_some, Option.some.injEq]
    constructor
    · rintro rfl
      exact ⟨⟨first, List.mem_cons_self, rfl⟩, least⟩
    · rintro ⟨⟨t, ht, rfl⟩, le⟩
      have below := le first List.mem_cons_self
      have above := least t ht
      rw [Millis.le_def] at below above
      exact Millis.ext (by omega)

theorem Keeps.shows (h : a.Keeps r) : a.Shows r where
  now := h.now
  size := by
    rw [size, h.pending]
    exact (perm_arranged r.timers).length_eq
  isEmpty := by
    rw [isEmpty, h.pending, List.isEmpty_iff]
    have same := (perm_arranged r.timers).length_eq
    rw [← List.length_eq_zero_iff, same, List.length_eq_zero_iff]
  nextDue? due := by
    rw [nextDue?_eq_some_iff]
    simp only [h.mem_iff]
  waits target := by
    rw [popDue?_eq_none_iff_forall]
    simp only [h.mem_iff]

/-- Whatever is asked of an agenda from the beginning on, it serves it as a roster would, and no roster
would serve it otherwise. Unless the numbers run out, a pool of tickets serves it the same, whichever
greatest ticket it hands out, and has left what the roster has left. Every task that was planned either
has come off, once for each time that it was planned, or still waits. The clock does not move back. -/
theorem roster_of_requests (qs : List Request) (few : (planned qs).length < 2 ^ 64) :
    ∃ r : Roster, Serves Roster.Serve {} qs (empty.answers qs) r ∧
      (∀ xs r', Serves Roster.Serve {} qs xs r' → xs = empty.answers qs ∧ r' = r) ∧
      (∃ p, Serves Pool.Serve {} qs (empty.answers qs) p) ∧
      (∀ xs p, Serves Pool.Serve {} qs xs p → xs = empty.answers qs ∧ p.now = r.now ∧
        p.tickets.map Ticket.timer = r.timers ∧
        ∀ t, p.Greatest t → (empty.serveAll qs).nextDue? = some t.due) ∧
      (empty.serveAll qs).Shows r ∧
      ((empty.answers qs).reduceOption ++ r.timers.map (·.task)).Perm (planned qs) ∧
      ∀ later, (empty.serveAll qs).now ≤ ((empty.serveAll qs).serveAll later).now := by
  obtain ⟨r, served, kept⟩ := keeps_empty.serveAll qs
  have room : (0 : UInt64).toNat + (planned qs).length < 2 ^ 64 := by simpa using few
  have pools : ∀ {xs p}, Serves Pool.Serve {} qs xs p → xs = empty.answers qs ∧ p.now = r.now ∧
      p.tickets.map Ticket.timer = r.timers ∧
      ∀ t, p.Greatest t → (empty.serveAll qs).nextDue? = some t.due := by
    intro xs p hp
    obtain ⟨ts, numbers, same⟩ := Pool.numbers_empty.serves hp room
    obtain ⟨rfl, rfl⟩ := Roster.serves_unique same served
    refine ⟨rfl, rfl, by simp [numbers.tickets, Pool.roster], fun t top => ?_⟩
    refine kept.shows.nextDue? t.due |>.2 ⟨⟨t.timer, ?_, rfl⟩, List.forall_mem_map.2 fun x hx => ?_⟩
    · exact List.mem_map_of_mem (by simpa [numbers.tickets] using top.1)
    · exact top.due_le (by simpa [numbers.tickets] using hx)
  refine ⟨r, served, ?_, ?_, fun xs p => pools, kept.shows, ?_, ?_⟩
  · exact fun xs r' h => Roster.serves_unique h served
  · obtain ⟨xs, p, hp⟩ := Pool.numbers_empty.exists_serves qs room
    exact ⟨p, (pools hp).1 ▸ hp⟩
  · simpa using Roster.perm_of_serves served
  · exact fun later => now_le_serveAll _ later

/-- Two tasks for one time that the clock has passed, one for now, and two for the end of time. -/
def belated : List Request :=
  [.schedule 50 .resume, .schedule 50 .reveal, .settle 100, .schedule .last (.narrate "end"),
    .schedule 0 .resume, .pop 49, .pop 60, .pop .last, .schedule .last .reveal, .pop .last, .pop .last]

/-- The agenda, the roster and any pool of tickets hand out the belated tasks in the order in which they
were planned, and keep the last one. -/
theorem roster_of_belated :
    (planned belated).length < 2 ^ 64 ∧ empty.answers belated = [none, none, none, none, none, none,
      some .resume, some .reveal, none, some .resume, some (.narrate "end")] ∧
    ∃ r : Roster, Serves Roster.Serve {} belated (empty.answers belated) r ∧
      r.timers.map (·.task) = [.reveal] ∧
      (∃ p, Serves Pool.Serve {} belated (empty.answers belated) p) ∧
      ∀ xs p, Serves Pool.Serve {} belated xs p → xs = empty.answers belated := by
  have few : (planned belated).length < 2 ^ 64 := by decide
  have answers : empty.answers belated = [none, none, none, none, none, none, some .resume,
      some .reveal, none, some .resume, some (.narrate "end")] := by decide
  obtain ⟨r, served, -, pool, pools, -, perm, -⟩ := roster_of_requests belated few
  refine ⟨few, answers, r, served, ?_, pool, fun xs p hp => (pools xs p hp).1⟩
  let off : List Task := [.resume, .reveal, .resume, .narrate "end"]
  have same : (planned belated).Perm (off ++ [.reveal]) := by decide
  rw [answers] at perm
  exact List.perm_singleton.1 ((List.perm_append_left_iff off).1 (perm.trans same))

end Agenda

end Inquest
