import Inquest.Proofs.Conversation.Record
import Inquest.Proofs.Dialogue.Timetable
/-!
# The chronicle of a run

Events carry no time. The chronicle of a run has each event with the stage as the step left it that
told the event, and so with the time that the clock showed; a call that moves the clock tells its
events task by task. What no elementary move breaks of a conversation and its chronicle holds after
every run.
-/

namespace Inquest

namespace Conversation

/-- What the second conversation has told beyond the first. -/
def news (c c' : Conversation) : Chronicle := c.stage.moments c'.stage

/-- What the tasks tell that `run` runs. -/
def runNews (target : Millis) : Nat → Conversation → Chronicle
  | 0, _ => []
  | n + 1, c => match c.step? target with
    | none => []
    | some d => c.news d ++ d.runNews target n

def callNews (limit : Nat) (c : Conversation) : Call → Chronicle
  | .start => c.news c.start.1
  | .advance delay => c.runNews (c.now + delay) limit
  | .advanceTo target | .sync target => c.runNews target limit
  | .runUntilIdle => c.runNews .last maxSteps
  | .choose value => c.news (c.choose value).1
  | .annotate .. | .click .. | .finishLoad _ | .takeEvents => []

def chronicle (limit : Nat) : Conversation → List Call → Chronicle
  | _, [] => []
  | c, call :: calls => c.callNews limit call ++
      match c.perform? limit call with
      | none => []
      | some (d, _) => d.chronicle limit calls

variable {c c' d : Conversation} {limit : Nat} {target : Millis}

theorem news_self (c : Conversation) : c.news c = [] := by
  simp [news, Stage.moments]

end Conversation

open Conversation in
/-- A property of a conversation and what has passed and been told in it that no elementary move
breaks. -/
structure Chronicled (P : Transcript → Chronicle → Conversation → Prop) : Prop where
  start {t ms c} : P t ms c → P t (ms ++ c.news c.start.1) c.start.1
  task {t ms c target c'} : P t ms c → c.step? target = some c' → P t (ms ++ c.news c') c'
  settle {t ms c target} : P t ms c → c.step? target = none → P t ms (c.settle target)
  chosen {t ms c value} : P t ms c → (c.choose value).2 = .ok () →
    P { t with picks := t.picks ++ [value] } (ms ++ c.news (c.choose value).1) (c.choose value).1
  refused {t ms c value e} : P t ms c → (c.choose value).2 = .error e →
    P t (ms ++ c.news (c.choose value).1) (c.choose value).1
  annotate {t ms c} (claim category) : P t ms c → P t ms (c.annotate claim category).1
  finishLoad {t ms c} (result) : P t ms c → P t ms (c.finishLoad result)
  takeEvents {t ms c} : P t ms c → P { t with taken := t.told c } ms c.takeEvents.1

namespace Chronicled

variable {P : Transcript → Chronicle → Conversation → Prop} {t : Transcript} {ms : Chronicle}
  {c c' : Conversation} {limit : Nat}

theorem run (hk : Chronicled P) (hp : P t ms c) (target : Millis) (n : Nat) :
    P t (ms ++ c.runNews target n) (c.run target n) := by
  induction n generalizing c ms with
  | zero =>
    rw [Conversation.runNews, List.append_nil]
    exact hp
  | succ n ih =>
    rw [Conversation.runNews, Conversation.run]
    cases hs : c.step? target with
    | none =>
      rw [List.append_nil]
      exact hp
    | some d =>
      simp only [← List.append_assoc]
      exact ih (hk.task hp hs)

theorem advanceTo (hk : Chronicled P) (hp : P t ms c) {target : Millis}
    (h : c.advanceTo? limit target = some c') : P t (ms ++ c.runNews target limit) c' := by
  simp only [Conversation.advanceTo?, Option.ite_none_left_eq_some, Option.some.injEq] at h
  obtain ⟨quiet, rfl⟩ := h
  exact hk.settle (hk.run hp target limit) (Conversation.step?_eq_none_iff.2 quiet)

theorem click (hk : Chronicled P) (hp : P t ms c) (claim : ClaimId) (highlighter : Option Category) :
    P t ms (c.click claim highlighter).1 := by
  unfold Conversation.click
  split
  · exact hp
  · split
    · exact hp
    · exact hk.annotate claim _ hp

/-- Such a property is kept by every call, with what the call tells. -/
theorem perform (hk : Chronicled P) (hp : P t ms c) {call : Call} {answer : Answer}
    (h : c.perform? limit call = some (c', answer)) :
    P (t.add (call, answer)) (ms ++ c.callNews limit call) c' := by
  cases call with
  | start =>
    cases h
    exact hk.start hp
  | advance | advanceTo | sync =>
    simp only [Conversation.perform?, Option.map_eq_some_iff, Prod.mk.injEq] at h
    obtain ⟨d, hd, rfl, rfl⟩ := h
    exact hk.advanceTo hp hd
  | runUntilIdle =>
    cases h
    exact hk.run hp _ _
  | choose value =>
    cases h
    cases hr : (c.choose value).2 with
    | ok => exact hk.chosen hp hr
    | error => exact hk.refused hp hr
  | annotate claim category =>
    cases h
    rw [Conversation.callNews, List.append_nil]
    exact hk.annotate claim category hp
  | click claim highlighter =>
    cases h
    rw [Conversation.callNews, List.append_nil]
    exact hk.click hp claim highlighter
  | finishLoad result =>
    cases h
    rw [Conversation.callNews, List.append_nil]
    exact hk.finishLoad result hp
  | takeEvents =>
    cases h
    rw [Conversation.callNews, List.append_nil]
    exact hk.takeEvents hp

/-- Such a property is kept by every run, with what the run tells. -/
theorem play (hk : Chronicled P) {calls : List Call} {log : Log} (hp : P t ms c)
    (h : c.play? limit calls = some (c', log)) :
    P (log.foldl .add t) (ms ++ c.chronicle limit calls) c' := by
  induction calls generalizing t ms c log with
  | nil =>
    cases h
    rw [Conversation.chronicle, List.append_nil]
    exact hp
  | cons call calls ih =>
    obtain ⟨d, answer, rest, hd, hr, rfl⟩ := Conversation.play?_cons.1 h
    have kept := ih (hk.perform hp hd) hr
    rw [Conversation.chronicle, hd, ← List.append_assoc]
    exact kept

end Chronicled

end Inquest
