import Inquest.Proofs.Conversation.Calls
/-!
# Conversations in lockstep

Two hosts make the same calls of one kind, and between them any others. A relation of the two
conversations that the other calls do not break on either side, and that a call made on both sides
does not break, holds between the ends of their runs, and the common calls gave the same answers.
-/

namespace Inquest

def Answer.batch : Answer → List Event
  | events batch => batch
  | _ => []

namespace Transcript

theorem taken_add (t : Transcript) (e : Call × Answer) :
    (t.add e).taken = t.taken ++ e.2.batch := by
  obtain ⟨call, answer⟩ := e
  cases answer with
  | events batch => cases call <;> rfl
  | outcome result =>
    cases result with
    | ok => cases call <;> exact (List.append_nil _).symm
    | error => cases call <;> exact (List.append_nil _).symm
  | done | time | mark | click => cases call <;> exact (List.append_nil _).symm

/-- The events that a host has taken are those that the calls of its run handed over. -/
theorem taken_ofLog (log : Log) : (ofLog log).taken = log.flatMap (·.2.batch) := by
  have fold : ∀ t : Transcript, (log.foldl add t).taken = t.taken ++ log.flatMap (·.2.batch) := by
    induction log with
    | nil => intro t; exact (List.append_nil _).symm
    | cons e log ih =>
      intro t
      rw [List.foldl_cons, ih, taken_add, List.flatMap_cons, List.append_assoc]
  exact fold {}

end Transcript

namespace Conversation

variable {P P' : Conversation → Prop} {limit : Nat} {c c' d : Conversation} {call : Call}
  {calls calls' before after : List Call} {log : Log}

/-- The property holds of every conversation that a run passes through. -/
def Throughout (limit : Nat) (P : Conversation → Prop) (c : Conversation) (calls : List Call) :
    Prop :=
  ∀ before d log, before <+: calls → c.play? limit before = some (d, log) → P d

theorem Throughout.here (h : c.Throughout limit P calls) : P c :=
  h [] c [] List.nil_prefix rfl

theorem Throughout.upTo (h : c.Throughout limit P calls) (hb : before <+: calls) :
    c.Throughout limit P before :=
  fun more d log hm hd => h more d log (hm.trans hb) hd

theorem Throughout.tail {answer : Answer} (h : c.Throughout limit P (call :: calls))
    (hp : c.perform? limit call = some (d, answer)) : d.Throughout limit P calls := by
  intro more e log hm he
  have reached : c.play? limit (call :: more) = some (e, (call, answer) :: log) :=
    play?_cons.2 ⟨d, answer, log, hp, he, rfl⟩
  exact h (call :: more) e _ ((List.prefix_cons_inj call).2 hm) reached

theorem Throughout.rest (h : c.Throughout limit P (before ++ after))
    (hp : c.play? limit before = some (d, log)) : d.Throughout limit P after := by
  intro more e log' hm he
  have reached : c.play? limit (before ++ more) = some (e, log ++ log') :=
    play?_append.2 ⟨d, log, log', hp, he, rfl⟩
  exact h (before ++ more) e _ ((List.prefix_append_right_inj before).2 hm) reached

/-- What holds of every conversation on the way to the end of a run holds throughout the run. -/
theorem throughout_of_play (hp : c.play? limit calls = some (d, log))
    (back : ∀ x, c.Reaches x → x.Reaches d → P x) : c.Throughout limit P calls := by
  rintro before x log₁ ⟨after, rfl⟩ hx
  obtain ⟨y, log₂, log₃, hy, hd, -⟩ := play?_append.1 hp
  rw [hx] at hy
  cases hy
  exact back x ⟨limit, before, log₁, hx⟩ ⟨limit, after, log₃, hd⟩

/-- Only taking events hands events over. -/
theorem batch_of_perform? {answer : Answer} (h : c.perform? limit call = some (d, answer))
    (hc : call ≠ .takeEvents) : answer.batch = [] := by
  cases call with
  | takeEvents => exact absurd rfl hc
  | advance | advanceTo | sync =>
    obtain ⟨e, -, eq⟩ := Option.map_eq_some_iff.1 h
    cases eq
    rfl
  | _ => cases h; rfl

/-- Where taking events is among the common calls, the events taken are those of the common calls.
-/
theorem taken_filter {common : Call → Bool} (hc : common .takeEvents = true)
    (hp : c.play? limit calls = some (d, log)) :
    (Transcript.ofLog (log.filter (common ·.1))).taken = (Transcript.ofLog log).taken := by
  rw [Transcript.taken_ofLog, Transcript.taken_ofLog]
  induction calls generalizing c log with
  | nil =>
    cases hp
    rfl
  | cons call calls ih =>
    obtain ⟨x, answer, rest, hx, hr, rfl⟩ := play?_cons.1 hp
    cases hcall : common call with
    | true => simp [hcall, ih hr]
    | false =>
      have other : call ≠ .takeEvents := by
        rintro rfl
        rw [hc] at hcall
        cases hcall
      simp [hcall, ih hr, batch_of_perform? hx other]

/-- Runs whose common calls have the same answers have told the same, if what waits to be taken is
the same. -/
theorem told_eq_of_filter_eq (common : Call → Bool) {log' : Log} {d' : Conversation}
    (hc : common .takeEvents = true) (hp : c.play? limit calls = some (d, log))
    (hp' : c'.play? limit calls' = some (d', log'))
    (same : log'.filter (common ·.1) = log.filter (common ·.1))
    (events : d'.stage.events = d.stage.events) :
    (Transcript.ofLog log').told d' = (Transcript.ofLog log).told d := by
  rw [Transcript.told, Transcript.told, ← taken_filter hc hp, ← taken_filter hc hp', same, events]

end Conversation

open Conversation in
/-- A relation that two conversations keep whose hosts make the same common calls. The last two
properties are known of the conversations that the two runs pass through. -/
structure Lockstep (common : Call → Bool) (P P' : Conversation → Prop)
    (R : Conversation → Conversation → Prop) : Prop where
  left {c c' d call limit answer} : R c c' → common call = false →
    c.perform? limit call = some (d, answer) → R d c'
  right {c c' call} (limit) : R c c' → common call = false →
    ∃ d' answer, c'.perform? limit call = some (d', answer) ∧ R c d'
  both {c c' d call limit answer} : R c c' → common call = true →
    c.perform? limit call = some (d, answer) → P d →
      ∃ d', c'.perform? limit call = some (d', answer) ∧ (P' d' → R d d')

namespace Lockstep

open Conversation

variable {common : Call → Bool} {P P' : Conversation → Prop}
  {R : Conversation → Conversation → Prop} {limit : Nat} {c c' d : Conversation}
  {calls calls' : List Call} {log : Log}

/-- Calls on one side only return and do not break the relation. -/
theorem play_right (hl : Lockstep common P P' R) (limit : Nat) (hr : R c c')
    (others : ∀ call ∈ calls', common call = false) :
    ∃ d' log', c'.play? limit calls' = some (d', log') ∧ R c d' ∧
      log'.filter (common ·.1) = [] := by
  induction calls' generalizing c' with
  | nil => exact ⟨c', [], rfl, hr, rfl⟩
  | cons call calls' ih =>
    have other : common call = false := others call List.mem_cons_self
    obtain ⟨x, answer, hx, hr⟩ := hl.right limit hr other
    obtain ⟨d', log', hd, hr, none⟩ := ih hr fun call' h => others call' (List.mem_cons_of_mem _ h)
    refine ⟨d', (call, answer) :: log', play?_cons.2 ⟨x, answer, log', hx, hd, rfl⟩, hr, ?_⟩
    simp [other, none]

/-- If one of two related conversations makes a run, then so does the other for a host that makes
the same common calls; the common calls have the same answers, and the ends are related. -/
theorem play (hl : Lockstep common P P' R) (hr : R c c')
    (same : calls.filter common = calls'.filter common)
    (hp : c.play? limit calls = some (d, log)) (known : c.Throughout limit P calls)
    (known' : c'.Throughout limit P' calls') :
    ∃ d' log', c'.play? limit calls' = some (d', log') ∧ R d d' ∧
      log'.filter (common ·.1) = log.filter (common ·.1) := by
  induction calls generalizing c c' calls' log with
  | nil =>
    cases hp
    have others : ∀ call ∈ calls', common call = false := by
      have none := List.filter_eq_nil_iff.1 same.symm
      exact fun call h => Bool.eq_false_iff.2 (none call h)
    exact hl.play_right limit hr others
  | cons call calls ih =>
    obtain ⟨x, answer, rest, hx, hd, rfl⟩ := play?_cons.1 hp
    have later : x.Throughout limit P calls := known.tail hx
    cases hcall : common call with
    | false =>
      rw [List.filter_cons_of_neg (by simp [hcall])] at same ⊢
      exact ih (hl.left hr hcall hx) same hd later known'
    | true =>
      -- On the other side the call comes after some that are made there only.
      rw [List.filter_cons_of_pos hcall] at same
      obtain ⟨before, after, rfl, others, -, same⟩ := List.filter_eq_cons_iff.1 same.symm
      have alone : ∀ call ∈ before, common call = false :=
        fun call h => Bool.eq_false_iff.2 (others call h)
      obtain ⟨y, log₁, hy, hr, none⟩ := hl.play_right limit hr alone
      obtain ⟨x', hx', hr⟩ := hl.both hr hcall hx later.here
      have known' : y.Throughout limit P' (call :: after) := known'.rest hy
      have later' : x'.Throughout limit P' after := known'.tail hx'
      obtain ⟨d', log₂, hd', hr, logs⟩ := ih (hr later'.here) same.symm hd later later'
      refine ⟨d', log₁ ++ (call, answer) :: log₂, ?_, hr, ?_⟩
      · exact play?_append.2 ⟨y, log₁, _, hy, play?_cons.2 ⟨x', answer, log₂, hx', hd', rfl⟩, rfl⟩
      · simp [none, hcall, logs]

end Lockstep

end Inquest
