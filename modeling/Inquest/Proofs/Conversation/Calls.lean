import Inquest.Conversation.Setup
/-!
# Calls of a host

A host plays a conversation by calls, in any order and with any arguments. A run is a list of calls,
each of which has returned; its log says what they gave back. Whatever no elementary move of a
conversation breaks holds after every run.
-/

namespace Inquest

inductive Call where
  | start
  | advance (delay : Millis)
  | advanceTo (target : Millis)
  | sync (reading : Millis)
  | runUntilIdle
  | choose (value : String)
  | annotate (claim : ClaimId) (category : Category)
  | click (claim : ClaimId) (highlighter : Option Category)
  | finishLoad (result : Except BookError Book)
  | takeEvents

inductive Answer where
  | done
  | outcome (result : Except ChoiceError Unit)
  | time (now : Millis)
  | mark (mark : Option Category)
  | click (click : ClaimClick)
  | events (batch : List Event)

abbrev Log := List (Call × Answer)

namespace Conversation

/-- Makes a call. A call that moves the clock returns only if at most `limit` tasks come due. -/
def perform? (limit : Nat) (c : Conversation) : Call → Option (Conversation × Answer)
  | .start => some (c.start.1, .outcome c.start.2)
  | .advance delay => (c.advance? limit delay).map (·, .done)
  | .advanceTo target => (c.advanceTo? limit target).map (·, .done)
  | .sync reading => (c.sync? limit reading).map (·, .done)
  | .runUntilIdle => some (c.runUntilIdle, .time c.runUntilIdle.now)
  | .choose value => some ((c.choose value).1, .outcome (c.choose value).2)
  | .annotate claim category =>
    some ((c.annotate claim category).1, .mark (c.annotate claim category).2)
  | .click claim highlighter =>
    some ((c.click claim highlighter).1, .click (c.click claim highlighter).2)
  | .finishLoad result => some (c.finishLoad result, .done)
  | .takeEvents => some (c.takeEvents.1, .events c.takeEvents.2.toList)

/-- Makes calls one after the other. There is nothing if one of them does not return. -/
def play? (limit : Nat) : Conversation → List Call → Option (Conversation × Log)
  | c, [] => some (c, [])
  | c, call :: calls => do
    let (c', answer) ← c.perform? limit call
    let (c'', log) ← c'.play? limit calls
    return (c'', (call, answer) :: log)

/-- Some run leads from one conversation to another. -/
def Reaches (c c' : Conversation) : Prop := ∃ limit calls log, c.play? limit calls = some (c', log)

variable {limit : Nat} {c c' : Conversation} {call : Call} {calls : List Call} {log : Log}

@[simp] theorem play?_nil : c.play? limit [] = some (c, []) := rfl

/-- A run is its first call and then a run from where that has led. -/
theorem play?_cons : c.play? limit (call :: calls) = some (c', log) ↔
    ∃ d answer rest, c.perform? limit call = some (d, answer) ∧
      d.play? limit calls = some (c', rest) ∧ log = (call, answer) :: rest := by
  constructor
  · intro h
    obtain ⟨⟨d, answer⟩, hd, h⟩ := Option.bind_eq_some_iff.1 h
    obtain ⟨⟨e, rest⟩, hr, h⟩ := Option.bind_eq_some_iff.1 h
    cases h
    exact ⟨d, answer, rest, hd, hr, rfl⟩
  · rintro ⟨d, answer, rest, hd, hr, rfl⟩
    simp [play?, hd, hr]

/-- A run of a list of calls is a run of the first of them and then of the others. -/
theorem play?_append {before after : List Call} : c.play? limit (before ++ after) = some (c', log) ↔
    ∃ d log₁ log₂, c.play? limit before = some (d, log₁) ∧ d.play? limit after = some (c', log₂) ∧
      log = log₁ ++ log₂ := by
  induction before generalizing c log with
  | nil =>
    constructor
    · intro h
      exact ⟨c, [], log, rfl, h, rfl⟩
    · rintro ⟨d, log₁, log₂, hd, h, rfl⟩
      cases hd
      exact h
  | cons call calls ih =>
    rw [List.cons_append, play?_cons]
    constructor
    · rintro ⟨d, answer, rest, hd, hr, rfl⟩
      obtain ⟨e, log₁, log₂, h₁, h₂, rfl⟩ := ih.1 hr
      exact ⟨e, _, log₂, play?_cons.2 ⟨d, answer, log₁, hd, h₁, rfl⟩, h₂, rfl⟩
    · rintro ⟨e, log₁, log₂, h₁, h₂, rfl⟩
      obtain ⟨d, answer, rest, hd, hr, rfl⟩ := play?_cons.1 h₁
      exact ⟨d, answer, _, hd, ih.2 ⟨e, rest, log₂, hr, h₂, rfl⟩, rfl⟩

theorem step?_eq_none_iff {target : Millis} :
    c.step? target = none ↔ ¬c.nextDue?.any (· ≤ target) := by
  rw [nextDue?, ← Agenda.popDue?_eq_none_iff, step?]
  cases c.stage.agenda.popDue? target <;> simp

theorem due_of_step?_eq_some {target : Millis} {d : Conversation} (hs : c.step? target = some d) :
    c.nextDue?.any (· ≤ target) := by
  refine Decidable.byContradiction fun still => ?_
  rw [step?_eq_none_iff.2 still] at hs
  cases hs

/-- Whatever is planned is due in the end. -/
theorem nextDue?_any_last : c.nextDue?.any (· ≤ .last) = c.nextDue?.isSome := by
  cases c.nextDue? with
  | none => rfl
  | some due => simpa using Millis.le_last due

/-- A conversation in which nothing is due does not run. -/
theorem run_of_step?_eq_none {target : Millis} (h : c.step? target = none) (n : Nat) :
    c.run target n = c := by
  cases n with
  | zero => rfl
  | succ n => rw [run, h]

theorem run_add (target : Millis) (m n : Nat) :
    c.run target (m + n) = (c.run target m).run target n := by
  induction m generalizing c with
  | zero => rw [Nat.zero_add]; rfl
  | succ m ih =>
    rw [Nat.succ_add, run, run]
    cases hs : c.step? target with
    | none => exact (run_of_step?_eq_none hs n).symm
    | some d => exact ih

/-- What no task breaks, no number of tasks breaks. -/
theorem run_of_step? {P : Conversation → Prop} {target : Millis}
    (keep : ∀ {c d}, P c → c.step? target = some d → P d) (h : P c) (n : Nat) :
    P (c.run target n) := by
  induction n generalizing c with
  | zero => exact h
  | succ n ih =>
    rw [run]
    cases hs : c.step? target with
    | none => exact h
    | some d => exact ih (keep h hs)

/-- Where every task does the same after a change, any number of tasks does. -/
theorem run_map {P : Conversation → Prop} {f : Conversation → Conversation} {target : Millis}
    (keep : ∀ {c d}, P c → c.step? target = some d → P d)
    (step : ∀ {c}, P c → (f c).step? target = (c.step? target).map f) (h : P c) (n : Nat) :
    (f c).run target n = f (c.run target n) := by
  induction n generalizing c with
  | zero => rfl
  | succ n ih =>
    rw [run, run, step h]
    cases hs : c.step? target with
    | none => rfl
    | some d => exact ih (keep h hs)

/-- With room for more tasks a call that returns does the same. -/
theorem advanceTo?_of_le {target : Millis} {m n : Nat} (hmn : m ≤ n)
    (h : c.advanceTo? m target = some c') : c.advanceTo? n target = some c' := by
  simp only [advanceTo?, Option.ite_none_left_eq_some, Option.some.injEq] at h ⊢
  obtain ⟨k, rfl⟩ := Nat.exists_eq_add_of_le hmn
  rw [run_add, run_of_step?_eq_none (step?_eq_none_iff.2 h.1)]
  exact h

theorem perform?_of_le {m n : Nat} (hmn : m ≤ n) {answer : Answer}
    (h : c.perform? m call = some (c', answer)) : c.perform? n call = some (c', answer) := by
  cases call with
  | advance | advanceTo | sync =>
    simp only [perform?, Option.map_eq_some_iff] at h ⊢
    obtain ⟨d, hd, hr⟩ := h
    exact ⟨d, advanceTo?_of_le hmn hd, hr⟩
  | _ => exact h

/-- A run with one limit is a run with any larger one, so one limit will do for all its calls. -/
theorem play?_of_le {m n : Nat} (hmn : m ≤ n) (h : c.play? m calls = some (c', log)) :
    c.play? n calls = some (c', log) := by
  induction calls generalizing c log with
  | nil => exact h
  | cons call calls ih =>
    obtain ⟨d, answer, rest, hd, hr, rfl⟩ := play?_cons.1 h
    exact play?_cons.2 ⟨d, answer, rest, perform?_of_le hmn hd, ih hr, rfl⟩

theorem Reaches.refl : c.Reaches c := ⟨0, [], [], rfl⟩

/-- One more call leads on. -/
theorem Reaches.perform {d : Conversation} {answer : Answer} (h : c.Reaches d)
    (hp : d.perform? limit call = some (c', answer)) : c.Reaches c' := by
  obtain ⟨limit', calls, log, hd⟩ := h
  have before := play?_of_le (Nat.le_max_left limit' limit) hd
  have last := perform?_of_le (Nat.le_max_right limit' limit) hp
  exact ⟨max limit' limit, calls ++ [call], _,
    play?_append.2 ⟨d, log, _, before, play?_cons.2 ⟨c', answer, [], last, rfl, rfl⟩, rfl⟩⟩

end Conversation

structure Transcript where
  /-- The events that the host has taken, in order. -/
  taken : List Event := []
  /-- The values that the host has chosen and that were not refused, in order. -/
  picks : List String := []

namespace Transcript

def add (t : Transcript) : Call × Answer → Transcript
  | (.choose value, .outcome (.ok ())) => { t with picks := t.picks ++ [value] }
  | (_, .events batch) => { t with taken := t.taken ++ batch }
  | _ => t

def ofLog (log : Log) : Transcript := log.foldl add {}

/-- Everything told in a conversation: the events that were taken, and then those that were not. -/
def told (t : Transcript) (c : Conversation) : List Event := t.taken ++ c.stage.events.toList

theorem told_of_events {t t' : Transcript} {c c' : Conversation} {es : List Event}
    (events : c'.stage.events.toList = c.stage.events.toList ++ es) (taken : t'.taken = t.taken) :
    t'.told c' = t.told c ++ es := by
  rw [told, told, events, taken, List.append_assoc]

/-- Taking events takes back nothing that was told. -/
theorem told_takeEvents (t : Transcript) (c : Conversation) :
    told { t with taken := t.told c } c.takeEvents.1 = t.told c := by
  simp [told, Conversation.takeEvents]

end Transcript

open Conversation in
/-- A property that no elementary move of a conversation breaks, but for choices that are accepted.
-/
structure Steady (P : Transcript → Conversation → Prop) : Prop where
  start {t c} : P t c → P t c.start.1
  task {t c target c'} : P t c → c.step? target = some c' → P t c'
  /-- The clock is moved only when everything due by then has been run. -/
  settle {t c target} : P t c → c.step? target = none → P t (c.settle target)
  refused {t c value e} : P t c → (c.choose value).2 = .error e → P t (c.choose value).1
  annotate {t c} (claim category) : P t c → P t (c.annotate claim category).1
  finishLoad {t c} (result) : P t c → P t (c.finishLoad result)
  takeEvents {t c} : P t c → P { t with taken := t.told c } c.takeEvents.1

/-- A property that no elementary move of a conversation breaks. -/
structure Kept (P : Transcript → Conversation → Prop) : Prop extends Steady P where
  chosen {t c value} : P t c → (c.choose value).2 = .ok () →
    P { t with picks := t.picks ++ [value] } (c.choose value).1

namespace Steady

variable {P : Transcript → Conversation → Prop} {t : Transcript} {c c' : Conversation}

theorem run (hs : Steady P) (hp : P t c) (target : Millis) (n : Nat) : P t (c.run target n) :=
  Conversation.run_of_step? (fun h hd => hs.task h hd) hp n

theorem advanceTo (hs : Steady P) (hp : P t c) {limit : Nat} {target : Millis}
    (h : c.advanceTo? limit target = some c') : P t c' := by
  simp only [Conversation.advanceTo?, Option.ite_none_left_eq_some, Option.some.injEq] at h
  obtain ⟨quiet, rfl⟩ := h
  exact hs.settle (hs.run hp target limit) (Conversation.step?_eq_none_iff.2 quiet)

theorem click (hs : Steady P) (hp : P t c) (claim : ClaimId) (highlighter : Option Category) :
    P t (c.click claim highlighter).1 := by
  unfold Conversation.click
  split
  · exact hp
  · split
    · exact hp
    · exact hs.annotate claim _ hp

/-- A steady property is kept by every call but the choice of a value that is accepted. -/
theorem perform (hs : Steady P) (hp : P t c) {limit : Nat} {call : Call} {answer : Answer}
    (h : c.perform? limit call = some (c', answer))
    (refused : ∀ value, call = .choose value → (c.choose value).2 ≠ .ok ()) :
    P (t.add (call, answer)) c' := by
  cases call with
  | start =>
    cases h
    exact hs.start hp
  | advance | advanceTo | sync =>
    simp only [Conversation.perform?, Option.map_eq_some_iff, Prod.mk.injEq] at h
    obtain ⟨d, hd, rfl, rfl⟩ := h
    exact hs.advanceTo hp hd
  | runUntilIdle =>
    cases h
    exact hs.run hp _ _
  | choose value =>
    cases h
    cases hr : (c.choose value).2 with
    | ok => exact absurd hr (refused value rfl)
    | error => exact hs.refused hp hr
  | annotate claim category =>
    cases h
    exact hs.annotate claim category hp
  | click claim highlighter =>
    cases h
    exact hs.click hp claim highlighter
  | finishLoad result =>
    cases h
    exact hs.finishLoad result hp
  | takeEvents =>
    cases h
    exact hs.takeEvents hp

end Steady

namespace Kept

variable {P : Transcript → Conversation → Prop} {t : Transcript} {c c' : Conversation}

/-- A property that no elementary move breaks is kept by every call. -/
theorem perform (hk : Kept P) (hp : P t c) {limit : Nat} {call : Call} {answer : Answer}
    (h : c.perform? limit call = some (c', answer)) : P (t.add (call, answer)) c' := by
  by_cases accepted : ∃ value, call = .choose value ∧ (c.choose value).2 = .ok ()
  · obtain ⟨value, rfl, ok⟩ := accepted
    cases h
    have chosen := hk.chosen hp ok
    rw [ok]
    exact chosen
  · exact hk.toSteady.perform hp h fun value hv ok => accepted ⟨value, hv, ok⟩

/-- A property that no elementary move breaks is kept by every run. -/
theorem play (hk : Kept P) {limit : Nat} {calls : List Call} {log : Log} (hp : P t c)
    (h : c.play? limit calls = some (c', log)) : P (log.foldl .add t) c' := by
  induction calls generalizing t c log with
  | nil =>
    cases h
    exact hp
  | cons call calls ih =>
    obtain ⟨d, answer, rest, hd, hr, rfl⟩ := Conversation.play?_cons.1 h
    have kept := ih (hk.perform hp hd) hr
    exact kept

end Kept

end Inquest
