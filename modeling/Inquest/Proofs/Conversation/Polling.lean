import Inquest.Proofs.Agenda.Clock
import Inquest.Proofs.Conversation.Mode
/-!
# Polling a conversation

A host may move the clock in steps of any size. Each task runs at its own due time, so stopping
early on the way to a time changes nothing, and going back to a time that is past does nothing.
-/

namespace Inquest

/-- The time to which a call moves the clock, if it names one. -/
def Call.target? : Call → Option Millis
  | advanceTo target => some target
  | sync reading => some reading
  | _ => none

namespace Stage

variable {s t : Stage} {m m' : Mode}

/-- What a turn plans is not overdue. -/
theorem Turn.punctual (h : s.Turn m m' t) : t.agenda.Punctual := by
  have idle : ∀ due, (s.wake due).agenda.Punctual := fun due => Agenda.punctual_idle _
  cases h with
  | leave hushed leaves =>
    cases hushed <;> cases leaves
    · exact (idle _).schedule _ _
    · exact idle _
    · exact idle _
    · exact (idle _).schedule _ _
    · exact idle _
    · exact idle _
  | begin | reveal | goOn => exact (idle _).schedule _ _

end Stage

namespace Conversation

variable {c c' d : Conversation} {limit : Nat} {target early late : Millis}

/-- A conversation in order that has no task overdue. -/
structure Prompt (c : Conversation) : Prop extends Orderly c where
  punctual : c.stage.agenda.Punctual

theorem step?_of_popDue?_eq_none (h : c.stage.agenda.popDue? target = none) :
    c.step? target = none := by
  rw [step?, h]

theorem popDue?_of_step?_eq_none (h : c.step? target = none) :
    c.stage.agenda.popDue? target = none := by
  rw [Agenda.popDue?_eq_none_iff]
  exact step?_eq_none_iff.1 h

/-- No move of a conversation leaves a task overdue. -/
theorem kept_prompt : Kept fun _ c => c.Prompt where
  start {t c} h := by
    obtain ⟨m, hm⟩ := h.mode
    refine ⟨kept_orderly.start (t := t) h.toOrderly, ?_⟩
    by_cases fresh : m = .unstarted
    · subst fresh
      obtain ⟨sc, -, eq, -⟩ := start_of_unstarted h.sound hm
      rw [eq]
      exact h.punctual.schedule _ _
    · rw [start_of_ne hm fresh]
      exact h.punctual
  task {t c _ c'} h hs := by
    obtain ⟨m, hm⟩ := h.mode
    obtain ⟨m', turn, -⟩ := turn_of_step? h.sound hm hs
    exact ⟨kept_orderly.task (t := t) h.toOrderly hs, turn.punctual⟩
  settle h quiet :=
    ⟨h.toOrderly.aside (aside_settle _ _), h.punctual.settle (popDue?_of_step?_eq_none quiet)⟩
  chosen {t c value} h ok := by
    obtain ⟨sc, number, o, sc', -, -, -, eq, -⟩ := choose_of_ok h.toOrderly ok
    refine ⟨kept_orderly.chosen (t := t) h.toOrderly ok, ?_⟩
    rw [eq]
    have accepted : (c.stage.accept (sc.reply number o)).agenda.Punctual := by
      rw [Stage.agenda_accept]
      exact h.punctual
    exact accepted.schedule _ _
  refused h hv := by
    rw [choose_of_error h.toOrderly hv]
    exact h
  annotate claim category h := ⟨h.toOrderly.aside (aside_annotate _ claim category), h.punctual⟩
  finishLoad result h := ⟨h.toOrderly.aside (aside_finishLoad _ result), h.punctual⟩
  takeEvents h := ⟨h.toOrderly.aside (aside_takeEvents _), h.punctual⟩

theorem prompt_of_build {s : Setup} (h : s.build = .ok c) : c.Prompt := by
  have orderly := orderly_of_build h
  obtain ⟨script, pacing, -, rfl⟩ := Setup.build_eq_ok h
  exact ⟨orderly, Agenda.punctual_idle 0⟩

/-- What is due at a time is due at any later one. -/
theorem step?_of_le (h : early ≤ late) (hs : c.step? early = some d) : c.step? late = some d := by
  unfold step? at hs ⊢
  split at hs
  · cases hs
  · rename_i task agenda hp
    rw [Agenda.popDue?_of_le h hp]
    exact hs

theorem step?_eq_none_of_le (h : early ≤ late) (quiet : c.step? late = none) :
    c.step? early = none := by
  cases hs : c.step? early with
  | none => rfl
  | some d => rw [step?_of_le h hs] at quiet; cases quiet

/-- No later task shows that the clock was moved before anything was due. -/
theorem step?_settle (quiet : c.step? early = none) :
    (c.settle early).step? late = c.step? late := by
  have same : (c.stage.agenda.settle early).popDue? late = c.stage.agenda.popDue? late :=
    Agenda.popDue?_settle (popDue?_of_step?_eq_none quiet)
  simp only [step?, settle, same]

theorem settle_settle (h : early ≤ late) : (c.settle early).settle late = c.settle late := by
  simp only [settle, Agenda.settle_settle h]

/-- The clock does not move back. -/
theorem settle_of_le (h : target ≤ c.now) : c.settle target = c := by
  have same : c.stage.agenda.settle target = c.stage.agenda := Agenda.settle_of_le h
  simp only [settle, same]

theorem le_now_settle : target ≤ (c.settle target).now := by
  show target ≤ max c.now target
  rw [Millis.le_def, Millis.val_max]
  omega

/-- When nothing is due the clock is moved. -/
theorem advanceTo?_of_step?_eq_none (quiet : c.step? target = none) (limit : Nat) :
    c.advanceTo? limit target = some (c.settle target) := by
  have still : ¬c.nextDue?.any (· ≤ target) := step?_eq_none_iff.1 quiet
  simp only [advanceTo?, run_of_step?_eq_none quiet, still, Bool.false_eq_true, ↓reduceIte]

/-- When a task is due it is run first. -/
theorem advanceTo?_of_step?_eq_some (hs : c.step? target = some d) (limit : Nat) :
    c.advanceTo? (limit + 1) target = d.advanceTo? limit target := by
  simp only [advanceTo?, run, hs]

theorem advanceTo?_zero_of_step?_eq_some (hs : c.step? target = some d) :
    c.advanceTo? 0 target = none := by
  have due := due_of_step?_eq_some hs
  simp only [advanceTo?, run, due, ↓reduceIte]

/-- Nothing is due any more when a move of the clock returns. -/
theorem step?_of_advanceTo? (h : c.advanceTo? limit target = some d) : d.step? target = none := by
  simp only [advanceTo?, Option.ite_none_left_eq_some, Option.some.injEq] at h
  obtain ⟨still, rfl⟩ := h
  have quiet := step?_eq_none_iff.2 still
  rw [step?_settle quiet, quiet]

theorem le_now_of_advanceTo? (h : c.advanceTo? limit target = some d) : target ≤ d.now := by
  simp only [advanceTo?, Option.ite_none_left_eq_some, Option.some.injEq] at h
  obtain ⟨-, rfl⟩ := h
  exact le_now_settle

/-- A poll at a time that has been reached changes nothing. -/
theorem advanceTo?_of_le_now (quiet : c.step? target = none) (h : target ≤ c.now) (limit : Nat) :
    c.advanceTo? limit target = some c := by
  rw [advanceTo?_of_step?_eq_none quiet, settle_of_le h]

/-- Having moved the clock before anything was due makes no difference to moving it further. -/
theorem advanceTo?_settle (h : early ≤ late) (quiet : c.step? early = none) (limit : Nat) :
    (c.settle early).advanceTo? limit late = c.advanceTo? limit late := by
  have same : (c.settle early).step? late = c.step? late := step?_settle quiet
  cases hs : c.step? late with
  | none =>
    rw [hs] at same
    rw [advanceTo?_of_step?_eq_none same, advanceTo?_of_step?_eq_none hs, settle_settle h]
  | some d =>
    rw [hs] at same
    cases limit with
    | zero => rw [advanceTo?_zero_of_step?_eq_some same, advanceTo?_zero_of_step?_eq_some hs]
    | succ n => rw [advanceTo?_of_step?_eq_some same, advanceTo?_of_step?_eq_some hs]

/-- A stop on the way to a time, within the same number of tasks. -/
theorem exists_stop_of_le (h : early ≤ late) (hl : c.advanceTo? limit late = some c') :
    ∃ d, c.advanceTo? limit early = some d ∧ d.advanceTo? limit late = some c' := by
  induction limit generalizing c with
  | zero =>
    cases hs : c.step? early with
    | none =>
      refine ⟨_, advanceTo?_of_step?_eq_none hs 0, ?_⟩
      rw [advanceTo?_settle h hs]
      exact hl
    | some e =>
      rw [advanceTo?_zero_of_step?_eq_some (step?_of_le h hs)] at hl
      cases hl
  | succ n ih =>
    cases hs : c.step? early with
    | none =>
      refine ⟨_, advanceTo?_of_step?_eq_none hs _, ?_⟩
      rw [advanceTo?_settle h hs]
      exact hl
    | some e =>
      -- The task due by the early time is the first on the way to the late one too.
      rw [advanceTo?_of_step?_eq_some (step?_of_le h hs)] at hl
      obtain ⟨d, hd, hl⟩ := ih hl
      refine ⟨d, ?_, advanceTo?_of_le (Nat.le_succ n) hl⟩
      rw [advanceTo?_of_step?_eq_some hs]
      exact hd

/-- Going on from a stop leads to where one move of the clock leads. -/
theorem advanceTo?_of_stop (h : early ≤ late) {m n : Nat} (he : c.advanceTo? m early = some d)
    (hl : d.advanceTo? n late = some c') : c.advanceTo? (m + n) late = some c' := by
  induction m generalizing c with
  | zero =>
    cases hs : c.step? early with
    | none =>
      rw [advanceTo?_of_step?_eq_none hs] at he
      cases he
      rw [advanceTo?_settle h hs] at hl
      rw [Nat.zero_add]
      exact hl
    | some e =>
      rw [advanceTo?_zero_of_step?_eq_some hs] at he
      cases he
  | succ m ih =>
    cases hs : c.step? early with
    | none =>
      rw [advanceTo?_of_step?_eq_none hs] at he
      cases he
      rw [advanceTo?_settle h hs] at hl
      exact advanceTo?_of_le (Nat.le_add_left n (m + 1)) hl
    | some e =>
      rw [advanceTo?_of_step?_eq_some hs] at he
      rw [Nat.succ_add, advanceTo?_of_step?_eq_some (step?_of_le h hs)]
      exact ih he

/-- Moving the clock to the later of two times may stop at either of them first. -/
theorem exists_stop_of_max {a b : Millis} (h : c.advanceTo? limit (max a b) = some c') :
    ∃ d, c.advanceTo? limit a = some d ∧ d.advanceTo? limit b = some c' := by
  rcases Millis.le_total a b with hab | hba
  · rw [Millis.max_eq_right hab] at h
    exact exists_stop_of_le hab h
  · rw [Millis.max_eq_left hba] at h
    refine ⟨c', h, advanceTo?_of_le_now ?_ ?_ limit⟩
    · exact step?_eq_none_of_le hba (step?_of_advanceTo? h)
    · exact Millis.le_trans hba (le_now_of_advanceTo? h)

/-- Moving the clock to one time and then to another leads to where the later of the two leads. -/
theorem advanceTo?_max_of_stop {a b : Millis} {m n : Nat} (ha : c.advanceTo? m a = some d)
    (hb : d.advanceTo? n b = some c') : c.advanceTo? (m + n) (max a b) = some c' := by
  rcases Millis.le_total a b with hab | hba
  · rw [Millis.max_eq_right hab]
    exact advanceTo?_of_stop hab ha hb
  · have quiet : d.step? b = none := step?_eq_none_of_le hba (step?_of_advanceTo? ha)
    have reached : b ≤ d.now := Millis.le_trans hba (le_now_of_advanceTo? ha)
    rw [advanceTo?_of_le_now quiet reached] at hb
    cases hb
    rw [Millis.max_eq_left hba]
    exact advanceTo?_of_le (Nat.le_add_right m n) ha

/-- A run that begins with a poll goes on from where moving the clock leads. -/
theorem play?_poll_cons {call : Call} {calls : List Call} {log : Log}
    (h : call.target? = some target) : c.play? limit (call :: calls) = some (c', log) ↔
      ∃ d rest, c.advanceTo? limit target = some d ∧ d.play? limit calls = some (c', rest) ∧
        log = (call, .done) :: rest := by
  have poll : c.perform? limit call = (c.advanceTo? limit target).map (·, .done) := by
    cases call with
    | advanceTo | sync => cases h; rfl
    | _ => cases h
  rw [play?_cons, poll]
  constructor
  · rintro ⟨d, answer, rest, hd, hr, rfl⟩
    obtain ⟨e, he, eq⟩ := Option.map_eq_some_iff.1 hd
    cases eq
    exact ⟨d, rest, he, hr, rfl⟩
  · rintro ⟨d, rest, hd, hr, rfl⟩
    exact ⟨d, .done, rest, by rw [hd]; rfl, hr, rfl⟩

/-- Polls at any times lead to where one move of the clock to the latest of them leads. -/
theorem play?_polls {calls : List Call} {first : Millis} {rest : List Millis}
    (polls : calls.map Call.target? = (first :: rest).map some) :
    (∃ limit log, c.play? limit calls = some (c', log)) ↔
      ∃ limit, c.advanceTo? limit (rest.foldl max first) = some c' := by
  induction rest generalizing calls first with
  | nil =>
    obtain ⟨call, calls, rfl, hcall, hcalls⟩ := List.map_eq_cons_iff.1 polls
    obtain rfl := List.map_eq_nil_iff.1 hcalls
    constructor
    · rintro ⟨limit, log, h⟩
      obtain ⟨d, rest, hd, hr, -⟩ := (play?_poll_cons hcall).1 h
      cases hr
      exact ⟨limit, hd⟩
    · rintro ⟨limit, h⟩
      exact ⟨limit, _, (play?_poll_cons hcall).2 ⟨c', [], h, rfl, rfl⟩⟩
  | cons second rest ih =>
    obtain ⟨call, calls, rfl, hcall, hcalls⟩ := List.map_eq_cons_iff.1 polls
    obtain ⟨call', calls, rfl, hcall', hrest⟩ := List.map_eq_cons_iff.1 hcalls
    -- The first two polls are one at the later of their times.
    have joined : (Call.advanceTo (max first second) :: calls).map Call.target? =
        (max first second :: rest).map some := by
      rw [List.map_cons, hrest]
      rfl
    refine Iff.trans ⟨?_, ?_⟩ (ih joined)
    · rintro ⟨limit, log, h⟩
      obtain ⟨d, log, hd, h, -⟩ := (play?_poll_cons hcall).1 h
      obtain ⟨e, log, he, h, -⟩ := (play?_poll_cons hcall').1 h
      have both : c.advanceTo? (limit + limit) (max first second) = some e :=
        advanceTo?_max_of_stop hd he
      exact ⟨_, _, (play?_poll_cons rfl).2 ⟨e, log, both, play?_of_le (by omega) h, rfl⟩⟩
    · rintro ⟨limit, log, h⟩
      obtain ⟨e, log, he, h, -⟩ := (play?_poll_cons rfl).1 h
      obtain ⟨d, hd, he⟩ := exists_stop_of_max he
      have after := (play?_poll_cons hcall').2 ⟨e, log, he, h, rfl⟩
      exact ⟨limit, _, (play?_poll_cons hcall).2 ⟨d, _, hd, after, rfl⟩⟩

/-- A host of a conversation that was set up may poll it as it likes. Moving the clock to the later
of two times may stop at either of them first; any polls, in any order, lead to where one move to
the latest of their times leads; and a poll at a time that is past changes nothing. -/
theorem polling_of_reaches {s : Setup} {c₀ : Conversation} (hb : s.build = .ok c₀)
    (h : c₀.Reaches c) :
    (∀ a b limit c', c.advanceTo? limit (max a b) = some c' →
      ∃ d, c.advanceTo? limit a = some d ∧ d.advanceTo? limit b = some c') ∧
    (∀ calls first rest, calls.map Call.target? = (first :: rest).map some → ∀ c',
      (∃ limit log, c.play? limit calls = some (c', log)) ↔
        ∃ limit, c.advanceTo? limit (rest.foldl max first) = some c') ∧
    (∀ limit target, target < c.now → c.advanceTo? limit target = some c) := by
  obtain ⟨limit, calls, log, h⟩ := h
  have prompt : c.Prompt := kept_prompt.play (t := {}) (prompt_of_build hb) h
  refine ⟨fun a b limit c' h => exists_stop_of_max h, fun calls first rest polls c' => ?_, ?_⟩
  · exact play?_polls polls
  · intro limit target past
    have quiet : c.step? target = none :=
      step?_of_popDue?_eq_none (prompt.punctual.popDue?_eq_none past)
    exact advanceTo?_of_le_now quiet (Millis.le_of_lt past) limit

end Conversation

namespace Gated

/-- While the case types its line, the host may look ahead past its gate in one step or in several.
-/
theorem polling_of_typing :
    ∃ c log c', (setupWith .standard .reference).build = .ok (openingWith .standard .reference) ∧
      (openingWith .standard .reference).play? 10 [.start, .advanceTo 700] = some (c, log) ∧
      c.isTyping ∧ c.advanceTo? 10 (max 1200 2000) = some c' ∧ c'.decision?.isSome ∧
      (∃ d, c.advanceTo? 10 1200 = some d ∧ d.advanceTo? 10 2000 = some c') ∧
      (∃ limit log, c.play? limit [.sync 900, .advanceTo 2000, .sync 300] = some (c', log)) ∧
      500 < c.now ∧ c.advanceTo? 10 500 = some c := by
  obtain ⟨c, log, played⟩ : ∃ c log,
      (openingWith .standard .reference).play? 10 [.start, .advanceTo 700] = some (c, log) :=
    ⟨_, _, rfl⟩
  obtain ⟨stop, polls, past⟩ :=
    Conversation.polling_of_reaches (build_setupWith .standard .reference) ⟨10, _, log, played⟩
  obtain ⟨c', arrives, asks⟩ : ∃ c', c.advanceTo? 10 (max 1200 2000) = some c' ∧
      c'.decision?.isSome := by
    cases played
    exact ⟨_, rfl, rfl⟩
  have latest : max (1200 : Millis) 2000 = [2000, 300].foldl max 900 := by decide
  refine ⟨c, log, c', build_setupWith _ _, played, ?_, arrives, asks, stop _ _ _ _ arrives, ?_, ?_,
    ?_⟩
  · cases played
    rfl
  · exact (polls [.sync 900, .advanceTo 2000, .sync 300] 900 [2000, 300] rfl c').2
      ⟨10, latest ▸ arrives⟩
  · cases played
    decide
  · refine past 10 500 ?_
    cases played
    decide

end Gated

end Inquest
