import Inquest.Proofs.Conversation.Mode
import Inquest.Proofs.Dialogue.Backstage
/-!
# Behind the scenes of a conversation

Some calls move the dialogue on, and others only change what is behind its scenes. A call that moves
the dialogue on does the same whatever is there, as long as the verdict and the counts recorded with
it are the same, and what it leaves behind the scenes is as it was, but for a verdict.
-/

namespace Inquest

/-- Whether a call moves the dialogue on. The others mark a claim, or bring answers. -/
def Call.drives : Call → Bool
  | annotate .. | click .. | finishLoad _ => false
  | _ => true

namespace Stage

@[simp] theorem marks_accept {s : Stage} (r : Reply) :
    (s.accept r).hearing.marks = s.hearing.marks := by
  rw [accept_eq]
  cases r.verdict with
  | none => rfl
  | some v =>
    rw [Option.elim_some, deliver]
    split <;> rfl

end Stage

namespace Conversation

def backstage (c : Conversation) : Backstage := c.stage.backstage

def swap (c : Conversation) (b : Backstage) : Conversation := { c with stage := c.stage.swap b }

variable {c d : Conversation} {b : Backstage} {m : Mode} {target : Millis} {limit : Nat}

@[simp] theorem backstage_swap : (c.swap b).backstage = b := rfl
@[simp] theorem swap_backstage : c.swap c.backstage = c := rfl
@[simp] theorem swap_swap (b' : Backstage) : (c.swap b').swap b = c.swap b := rfl

theorem In.swap (h : c.In m) : (c.swap b).In m := ⟨h.stage.swap, h.started⟩

theorem Orderly.swap (o : c.Orderly) : (c.swap b).Orderly :=
  ⟨o.sound, o.mode.imp fun _ h => h.swap⟩

theorem start_swap : (c.swap b).start = (c.start.1.swap b, c.start.2) := by
  have started : (c.swap b).started = c.started := rfl
  cases hs : c.started with
  | true => simp [start, started, hs]
  | false =>
    have script : (c.swap b).stage.walk.script = c.stage.walk.script := rfl
    cases hf : c.stage.walk.script.scene? c.stage.walk.script.start with
    | none => simp only [start, started, hs, Stage.start, Stage.enter, script, hf]; rfl
    | some sc => simp only [start, started, hs, Stage.start, Stage.enter, script, hf]; rfl

theorem backstage_start : c.start.1.backstage = c.backstage := by
  have same := congrArg (·.1.backstage) (start_swap (c := c) (b := c.backstage))
  exact same

/-- Running a task does not look behind the scenes. -/
theorem backstage_step? (o : c.Orderly) (hs : c.step? target = some d) :
    d.backstage = c.backstage := by
  obtain ⟨m, hm⟩ := o.mode
  obtain ⟨m', turn, -⟩ := turn_of_step? o.sound hm hs
  exact turn.backstage_eq

/-- The same task is run whatever is behind the scenes. -/
theorem step?_swap (o : c.Orderly) (same : b.outcome = c.backstage.outcome) :
    (c.swap b).step? target = (c.step? target).map (·.swap b) := by
  obtain ⟨m, hm⟩ := o.mode
  have h' : (c.swap b).In m := hm.swap
  exact step?_map (f := (Stage.swap · b)) o.sound hm o.sound h'
    (fun turn => ⟨_, turn.swap same⟩) rfl

/-- Tasks are run without a look behind the scenes. -/
theorem keeps_backstage {b' : Backstage} (h : c.Orderly ∧ c.backstage = b')
    (hs : c.step? target = some d) : d.Orderly ∧ d.backstage = b' :=
  ⟨h.1.of_step? hs, (backstage_step? h.1 hs).trans h.2⟩

theorem backstage_run (o : c.Orderly) (n : Nat) : (c.run target n).backstage = c.backstage :=
  (run_of_step? keeps_backstage ⟨o, rfl⟩ n).2

theorem run_swap (o : c.Orderly) (same : b.outcome = c.backstage.outcome) (n : Nat) :
    (c.swap b).run target n = (c.run target n).swap b := by
  have step : ∀ {x : Conversation}, x.Orderly ∧ x.backstage = c.backstage →
      (x.swap b).step? target = (x.step? target).map (·.swap b) := by
    intro x hx
    exact step?_swap hx.1 (by rw [hx.2, same])
  exact run_map (f := (swap · b)) keeps_backstage step ⟨o, rfl⟩ n

theorem advanceTo?_swap (o : c.Orderly) (same : b.outcome = c.backstage.outcome) :
    (c.swap b).advanceTo? limit target = (c.advanceTo? limit target).map (·.swap b) := by
  simp only [advanceTo?, run_swap o same]
  have due : ((c.run target limit).swap b).nextDue? = (c.run target limit).nextDue? := rfl
  rw [due]
  split <;> rfl

theorem backstage_advanceTo? (o : c.Orderly) (h : c.advanceTo? limit target = some d) :
    d.backstage = c.backstage := by
  simp only [advanceTo?, Option.ite_none_left_eq_some, Option.some.injEq] at h
  obtain ⟨-, rfl⟩ := h
  exact backstage_run o limit

/-- The player's choice does the same whatever is behind the scenes, and leaves all there as it was
but for the verdict that it gives. -/
theorem choose_swap (o : c.Orderly) (same : b.outcome = c.backstage.outcome) (value : String) :
    ∃ ruling,
      (c.swap b).choose value =
        ((c.choose value).1.swap ⟨b.store, b.marks, ruling⟩, (c.choose value).2) ∧
      ruling.map (·.verdict) = (c.choose value).1.verdict? ∧
      (c.choose value).1.store = c.store ∧ (c.choose value).1.marks = c.marks := by
  have verdict : b.ruling.map (·.verdict) = c.verdict? := Stage.verdict?_of_outcome_eq same
  obtain ⟨m, hm⟩ := o.mode
  rcases decision?_of_in hm with none | ⟨sc, number, rfl⟩
  · have eq := choose_of_decision?_eq_none none value
    have eq' := choose_of_decision?_eq_none (c := c.swap b) none value
    rw [eq, eq']
    exact ⟨b.ruling, rfl, verdict, rfl, rfl⟩
  · cases ho : sc.exit.options.find? (·.value = value) with
    | none =>
      have eq := choose_of_find?_eq_none o.sound hm ho
      have eq' := choose_of_find?_eq_none (c := c.swap b) o.sound hm.swap ho
      rw [eq, eq']
      exact ⟨b.ruling, rfl, verdict, rfl, rfl⟩
    | some option =>
      obtain ⟨sc', found, eq, -⟩ := choose_of_find?_eq_some o.sound hm ho
      obtain ⟨sc'', found', eq', -⟩ :=
        choose_of_find?_eq_some (c := c.swap b) o.sound hm.swap ho
      obtain rfl : sc' = sc'' := Option.some.inj (found.symm.trans found')
      obtain ⟨ruling, accepted, given⟩ := Stage.accept_swap same (sc.reply number option)
      have accepted' : (c.swap b).stage.accept (sc.reply number option) =
          (c.stage.accept (sc.reply number option)).swap ⟨b.store, b.marks, ruling⟩ := accepted
      rw [eq, eq', accepted']
      refine ⟨ruling, rfl, given, ?_, ?_⟩
      · exact congrArg Walk.store (Stage.walk_accept _)
      · exact Stage.marks_accept _

/-- A call that moves the dialogue on does the same whatever is behind the scenes, and leaves all
there as it was but for a verdict. -/
theorem perform?_swap (o : c.Orderly) (same : b.outcome = c.backstage.outcome) {call : Call}
    {answer : Answer} (hd : call.drives = true) (h : c.perform? limit call = some (d, answer)) :
    d.store = c.store ∧ d.marks = c.marks ∧ ∃ ruling,
      (c.swap b).perform? limit call = some (d.swap ⟨b.store, b.marks, ruling⟩, answer) ∧
      ruling.map (·.verdict) = d.verdict? := by
  have kept : ∀ {d : Conversation}, d.backstage = c.backstage →
      d.store = c.store ∧ d.marks = c.marks ∧ b.ruling.map (·.verdict) = d.verdict? := by
    intro d hb
    refine ⟨congrArg Backstage.store hb, congrArg Backstage.marks hb, ?_⟩
    rw [← hb] at same
    exact Stage.verdict?_of_outcome_eq same
  have moved : ∀ {target : Millis}, (c.advanceTo? limit target).map (·, Answer.done) =
      some (d, answer) → d.store = c.store ∧ d.marks = c.marks ∧ ∃ ruling,
        ((c.swap b).advanceTo? limit target).map (·, Answer.done) =
          some (d.swap ⟨b.store, b.marks, ruling⟩, answer) ∧
        ruling.map (·.verdict) = d.verdict? := by
    intro target h
    obtain ⟨e, he, eq⟩ := Option.map_eq_some_iff.1 h
    cases eq
    obtain ⟨store, marks, verdict⟩ := kept (backstage_advanceTo? o he)
    refine ⟨store, marks, b.ruling, ?_, verdict⟩
    rw [advanceTo?_swap o same, he]
    rfl
  cases call with
  | annotate | click | finishLoad => cases hd
  | start =>
    cases h
    obtain ⟨store, marks, verdict⟩ := kept (d := c.start.1) backstage_start
    refine ⟨store, marks, b.ruling, ?_, verdict⟩
    simp only [perform?, start_swap]
  | advance | advanceTo | sync => exact moved h
  | runUntilIdle =>
    cases h
    obtain ⟨store, marks, verdict⟩ := kept (d := c.runUntilIdle) (backstage_run o maxSteps)
    refine ⟨store, marks, b.ruling, ?_, verdict⟩
    simp only [perform?, runUntilIdle, run_swap o same]
    rfl
  | choose value =>
    cases h
    obtain ⟨ruling, eq, verdict, store, marks⟩ := choose_swap o same value
    refine ⟨store, marks, ruling, ?_, verdict⟩
    simp only [perform?, eq]
  | takeEvents =>
    cases h
    obtain ⟨store, marks, verdict⟩ := kept (d := c.takeEvents.1) rfl
    exact ⟨store, marks, b.ruling, rfl, verdict⟩

/-- A call that does not move the dialogue on returns, and changes only the answers and the marks.
-/
theorem perform?_of_not_drives {call : Call} (hd : call.drives = false) (limit : Nat) :
    ∃ store marks answer, c.perform? limit call =
      some (c.swap ⟨store, marks, c.backstage.ruling⟩, answer) := by
  cases call with
  | annotate claim category =>
    exact ⟨c.store, (c.annotate claim category).1.marks, _, rfl⟩
  | click claim highlighter =>
    have outcome : ∃ marks, (c.click claim highlighter).1 =
        c.swap ⟨c.store, marks, c.backstage.ruling⟩ := by
      unfold click
      split
      · exact ⟨c.marks, rfl⟩
      · split
        · exact ⟨c.marks, rfl⟩
        · exact ⟨_, rfl⟩
    obtain ⟨marks, eq⟩ := outcome
    refine ⟨c.store, marks, .click (c.click claim highlighter).2, ?_⟩
    rw [← eq]
    rfl
  | finishLoad result => exact ⟨(c.finishLoad result).store, c.marks, .done, rfl⟩
  | _ => cases hd

/-- Two conversations that differ behind the scenes only, and there not in the verdict or the counts
recorded with it. -/
structure Alike (c c' : Conversation) : Prop where
  orderly : c.Orderly
  front : c' = c.swap c'.backstage
  outcome : c'.backstage.outcome = c.backstage.outcome

variable {c' : Conversation} {call : Call} {answer : Answer}

/-- A call that moves the dialogue on answers the same to both hosts. Only the grading of a verdict
that it gives may differ. -/
theorem Alike.perform (h : c.Alike c') (hd : call.drives = true)
    (hp : c.perform? limit call = some (d, answer)) :
    d.Orderly ∧ d.store = c.store ∧ d.marks = c.marks ∧ ∃ ruling,
      c'.perform? limit call = some (d.swap ⟨c'.store, c'.marks, ruling⟩, answer) ∧
      ruling.map (·.verdict) = d.verdict? := by
  have orderly : d.Orderly := kept_orderly.perform (t := {}) h.orderly hp
  have same := perform?_swap h.orderly h.outcome hd hp
  rw [← h.front] at same
  exact ⟨orderly, same⟩

/-- A call that does not move the dialogue on keeps a conversation like another. -/
theorem Alike.aside_left (h : c.Alike c') (hd : call.drives = false)
    (hp : c.perform? limit call = some (d, answer)) : d.Alike c' := by
  have orderly : d.Orderly := kept_orderly.perform (t := {}) h.orderly hp
  obtain ⟨store, marks, answer', eq⟩ := perform?_of_not_drives (c := c) hd limit
  rw [hp] at eq
  cases eq
  exact ⟨orderly, h.front, h.outcome⟩

theorem Alike.aside_right (h : c.Alike c') (hd : call.drives = false) (limit : Nat) :
    ∃ d' answer, c'.perform? limit call = some (d', answer) ∧ c.Alike d' := by
  obtain ⟨store, marks, answer, eq⟩ := perform?_of_not_drives (c := c') hd limit
  refine ⟨_, answer, eq, h.orderly, ?_, h.outcome⟩
  have front := h.front
  rw [front]
  rfl

/-- Once there is a ruling it stays. -/
theorem kept_ruling {r : Ruling} : Kept fun _ c => c.Orderly ∧ c.backstage.ruling = some r where
  start {t c} h := by
    refine ⟨kept_orderly.start (t := t) h.1, ?_⟩
    rw [backstage_start]
    exact h.2
  task {t c _ c'} h hs := by
    refine ⟨kept_orderly.task (t := t) h.1 hs, ?_⟩
    rw [backstage_step? h.1 hs]
    exact h.2
  settle {t c _} h quiet := ⟨kept_orderly.settle (t := t) h.1 quiet, h.2⟩
  chosen {t c value} h ok := by
    refine ⟨kept_orderly.chosen (t := t) h.1 ok, ?_⟩
    obtain ⟨sc, number, o, sc', -, -, -, eq, -⟩ := choose_of_ok h.1 ok
    have before : c.stage.hearing.ruling = some r := h.2
    rw [eq]
    refine (Stage.ruling_accept _).trans ?_
    rw [before]
    rfl
  refused h hv := by
    rw [choose_of_error h.1 hv]
    exact h
  annotate {t c} claim category h := ⟨kept_orderly.annotate (t := t) claim category h.1, h.2⟩
  finishLoad {t c} result h := ⟨kept_orderly.finishLoad (t := t) result h.1, h.2⟩
  takeEvents {t c} h := ⟨kept_orderly.takeEvents (t := t) h.1, h.2⟩

theorem ruling_of_reaches {r : Ruling} (o : c.Orderly) (hr : c.backstage.ruling = some r)
    (h : c.Reaches d) : d.backstage.ruling = some r := by
  obtain ⟨limit, calls, log, h⟩ := h
  exact (kept_ruling.play (t := {}) ⟨o, hr⟩ h).2

end Conversation

end Inquest
