import Inquest.Proofs.Conversation.Backstage
import Inquest.Proofs.Conversation.Lockstep
import Inquest.Proofs.Conversation.Ruling
/-!
# Secrecy of the answers and the marks

Until a verdict is given no host can tell from a conversation what the answers are, or whether they
have arrived. The marks and the answers show in the dialogue only through the counts that are
recorded with the verdict: two conversations that record the same counts, or none, say the same.
-/

namespace Inquest

def Call.loads : Call → Bool
  | finishLoad _ => true
  | _ => false

/-- What a host sees of the dialogue. -/
structure Face where
  history : Array Line
  decision : Option Decision
  scene : Option String
  now : Millis
  nextDue : Option Millis
  typing : Bool
  finished : Bool
  closed : Bool

namespace Conversation

def face (c : Conversation) : Face where
  history := c.history
  decision := c.decision?
  scene := c.scene?
  now := c.now
  nextDue := c.nextDue?
  typing := c.isTyping
  finished := c.isFinished
  closed := c.isClosed

/-- The conversations play one script at one pace about one suspect. -/
structure Twins (c c' : Conversation) : Prop where
  script : c'.script = c.script
  pacing : c'.stage.hearing.narrator.pacing = c.stage.hearing.narrator.pacing
  suspect : c'.stage.walk.suspect = c.stage.walk.suspect

/-- Nothing of the answers has been shown. -/
structure Secret (c : Conversation) : Prop where
  verdict : c.verdict? = none
  accuracy : c.accuracy? = none
  sheet : c.sheet? = none
  revealed : ∀ claim, c.revealed? claim = none

variable {c c' c₀ c₀' d : Conversation} {limit : Nat} {calls calls' : List Call} {log log' : Log}
  {t : Transcript}

theorem secret_of_ruling_eq_none (h : c.backstage.ruling = none) : c.Secret := by
  have ruling : c.stage.hearing.ruling = none := h
  have verdict : c.verdict? = none := by simp [verdict?, Hearing.verdict?, ruling]
  refine ⟨verdict, ?_, ?_, fun claim => ?_⟩
  · simp [accuracy?, Hearing.accuracy?, ruling]
  · simp [sheet?, ruling]
  · simp [revealed?, verdict]

/-- Where no source is revealed, a click marks the claim if there is a highlighter, and does nothing
else. -/
theorem click_of_no_source {claim : ClaimId} (h : (c.revealed? claim).bind (·.source) = none)
    (highlighter : Option Category) :
    c.click claim highlighter = match highlighter with
      | none => (c, .ignored)
      | some category =>
        ((c.annotate claim category).1, .marked (c.annotate claim category).2) := by
  cases highlighter <;> simp only [click, h]

/-- Two conversations without a ruling that differ in their answers only. -/
structure Veiled (c c' : Conversation) : Prop where
  orderly : c.Orderly
  unruled : c.backstage.ruling = none
  answers : ∃ store, c' = c.swap { c.backstage with store }

theorem Veiled.alike (h : c.Veiled c') : c.Alike c' := by
  obtain ⟨store, rfl⟩ := h.answers
  exact ⟨h.orderly, rfl, rfl⟩

/-- Two conversations that were set up as twins differ in their answers only. -/
theorem Twins.veiled {s s' : Setup} (h : c.Twins c') (hb : s.build = .ok c)
    (hb' : s'.build = .ok c') : c.Veiled c' := by
  have orderly := orderly_of_build hb
  obtain ⟨script, pacing, -, rfl⟩ := Setup.build_eq_ok hb
  obtain ⟨script', pacing', -, rfl⟩ := Setup.build_eq_ok hb'
  have same_script : script' = script := h.script
  have same_pacing : pacing' = pacing := h.pacing
  have same_suspect : s'.suspect.getD script'.suspect = s.suspect.getD script.suspect := h.suspect
  subst same_script same_pacing
  refine ⟨orderly, rfl, s'.loadStore, ?_⟩
  simp only [Stage.opening, same_suspect]
  rfl

/-- As long as no verdict is given, only bringing answers tells such conversations apart, and not to
the host. -/
theorem lockstep_veiled :
    Lockstep (!·.loads) (fun c => c.backstage.ruling = none) (fun _ => True) Veiled where
  left {c c' d call limit answer} h hc hp := by
    cases call with
    | finishLoad result =>
      cases hp
      obtain ⟨store, rfl⟩ := h.answers
      exact ⟨h.orderly.aside (aside_finishLoad _ result), h.unruled, store, rfl⟩
    | _ => cases hc
  right {c c' call} limit h hc := by
    cases call with
    | finishLoad result =>
      obtain ⟨store, rfl⟩ := h.answers
      exact ⟨_, _, rfl, h.orderly, h.unruled, _, rfl⟩
    | _ => cases hc
  both {c c' d call limit answer} h hc hp unruled := by
    have orderly : d.Orderly := kept_orderly.perform (t := {}) h.orderly hp
    cases hd : call.drives with
    | true =>
      obtain ⟨-, store, marks, ruling, hp', verdict⟩ := h.alike.perform hd hp
      have none_given : d.verdict? = none := (secret_of_ruling_eq_none unruled).verdict
      have none_ruled : ruling = none := by simpa [none_given] using verdict
      obtain ⟨store', rfl⟩ := h.answers
      refine ⟨_, hp', fun _ => ⟨orderly, unruled, store', ?_⟩⟩
      rw [none_ruled, ← unruled]
      exact congrArg (fun marks => d.swap ⟨store', marks, d.backstage.ruling⟩) marks.symm
    | false =>
      obtain ⟨store, rfl⟩ := h.answers
      cases call with
      | annotate claim category =>
        cases hp
        exact ⟨_, rfl, fun _ => ⟨orderly, unruled, store, rfl⟩⟩
      | click claim highlighter =>
        have hidden : ∀ c : Conversation, c.backstage.ruling = none →
            (c.revealed? claim).bind (·.source) = none := by
          intro c hr
          rw [(secret_of_ruling_eq_none hr).revealed claim, Option.bind_none]
        have eq := click_of_no_source (hidden c h.unruled) highlighter
        have eq' := click_of_no_source (c := c.swap { c.backstage with store })
          (hidden _ h.unruled) highlighter
        simp only [perform?, eq, Option.some.injEq, Prod.mk.injEq] at hp
        simp only [perform?, eq']
        obtain ⟨rfl, rfl⟩ := hp
        cases highlighter with
        | none => exact ⟨_, rfl, fun _ => ⟨orderly, unruled, store, rfl⟩⟩
        | some category => exact ⟨_, rfl, fun _ => ⟨orderly, unruled, store, rfl⟩⟩
      | finishLoad => cases hc
      | _ => cases hd

/-- Whether a choice gives a verdict does not depend on the answers. -/
theorem Veiled.judges_iff (h : c.Veiled c') (value : String) :
    c'.Judges value ↔ c.Judges value := by
  obtain ⟨store, rfl⟩ := h.answers
  obtain ⟨ruling, eq, -⟩ :=
    choose_swap (b := { c.backstage with store }) h.orderly rfl value
  have result : ((c.swap { c.backstage with store }).choose value).2 = (c.choose value).2 := by
    rw [eq]
  exact and_congr_left fun _ => by rw [result]

theorem Veiled.secret (h : c.Veiled c') : c.Secret ∧ c'.Secret := by
  have unruled : c'.backstage.ruling = none := by
    obtain ⟨store, rfl⟩ := h.answers
    exact h.unruled
  exact ⟨secret_of_ruling_eq_none h.unruled, secret_of_ruling_eq_none unruled⟩

/-- Two conversations were set up with one script, pace and suspect, and with any answers. As long
as no gate for the verdict is answered, a host that makes the same calls, whatever answers are
brought and when, gets the same replies from both, sees and is told the same, and is shown no
answer. -/
theorem secret_of_unjudged {s s' : Setup} (hb : s.build = .ok c₀) (hb' : s'.build = .ok c₀')
    (twins : c₀.Twins c₀') (same : calls.filter (!·.loads) = calls'.filter (!·.loads))
    (h : c₀.play? limit calls = some (c, log)) (unjudged : c₀.Unjudged limit calls) :
    ∃ c' log', c₀'.play? limit calls' = some (c', log') ∧ c₀'.Unjudged limit calls' ∧
      log'.filter (!·.1.loads) = log.filter (!·.1.loads) ∧
      (Transcript.ofLog log').told c' = (Transcript.ofLog log).told c ∧
      c'.face = c.face ∧ c'.marks = c.marks ∧ c.Secret ∧ c'.Secret ∧
      ∀ value, c'.Judges value ↔ c.Judges value := by
  have unruled : c.backstage.ruling = none :=
    ((ruled_of_build hb).play_of_unjudged unjudged h).ruling
  have along : c₀.Throughout limit (fun c => c.backstage.ruling = none) calls := by
    refine throughout_of_play h fun x hx hc => ?_
    cases hr : x.backstage.ruling with
    | none => rfl
    | some r =>
      -- A ruling on the way would still be there at the end.
      rw [ruling_of_reaches (orderly_of_reaches hb hx) hr hc] at unruled
      cases unruled
  obtain ⟨c', log', h', after, logs⟩ :=
    lockstep_veiled.play (twins.veiled hb hb') same h along fun _ _ _ _ _ => trivial
  obtain ⟨secret, secret'⟩ := after.secret
  have unjudged' : c₀'.Unjudged limit calls' := by
    refine (ruled_of_build hb').unjudged_of_play h' ?_
    exact Option.map_eq_none_iff.1 secret'.verdict
  obtain ⟨store, eq⟩ := after.answers
  have events : c'.stage.events = c.stage.events := by rw [eq]; rfl
  refine ⟨c', log', h', unjudged', logs, ?_, by rw [eq]; rfl, by rw [eq]; rfl, secret, secret',
    after.judges_iff⟩
  exact told_eq_of_filter_eq (!·.loads) rfl h h' logs events

end Conversation

namespace Gated

/-- The same calls with answers brought between them, and then lost again. -/
def lateDoubts : List Call :=
  [.finishLoad (.ok Reference.book), .start, .annotate 3 .supported, .runUntilIdle,
    .finishLoad (.error (.io "gone")), .choose "maybe"]

/-- While the case asks for the verdict, a host cannot tell that the answers came late. -/
theorem secret_of_doubts :
    ∃ c log c' log', setup.build = .ok opening ∧
      (setupWith .instant .loading).build = .ok (openingWith .instant .loading) ∧
      opening.Twins (openingWith .instant .loading) ∧
      doubts.filter (!·.loads) = lateDoubts.filter (!·.loads) ∧
      opening.play? 10 doubts = some (c, log) ∧ opening.Unjudged 10 doubts ∧
      c.decision?.isSome ∧
      (openingWith .instant .loading).play? 10 lateDoubts = some (c', log') ∧
      log'.filter (!·.1.loads) = log.filter (!·.1.loads) ∧ c'.face = c.face ∧
      c'.marks = c.marks ∧ c.Secret ∧ c'.Secret := by
  obtain ⟨c, log, played⟩ : ∃ c log, opening.play? 10 doubts = some (c, log) := ⟨_, _, rfl⟩
  have twins : opening.Twins (openingWith .instant .loading) := ⟨rfl, rfl, rfl⟩
  have same : doubts.filter (!·.loads) = lateDoubts.filter (!·.loads) := rfl
  obtain ⟨c', log', played', -, logs, -, face, marks, secret, secret', -⟩ :=
    Conversation.secret_of_unjudged build_setup (build_setupWith .instant .loading) twins same
      played unjudged_doubts
  refine ⟨c, log, c', log', build_setup, build_setupWith _ _, twins, same, played,
    unjudged_doubts, ?_, played', logs, face, marks, secret, secret'⟩
  cases played
  rfl

end Gated

namespace Conversation

variable {c c' c₀ c₀' d : Conversation} {limit : Nat} {calls calls' : List Call} {log log' : Log}

/-- The counts of the conversation are those given, if it has any. -/
def Counts (tally : Option Tally) (c : Conversation) : Prop :=
  ∀ r, c.backstage.ruling = some r → some r.report.summary = tally

/-- Verdict and counts together are all that can be heard of a ruling. -/
theorem outcome_eq_of_counts {tally : Option Tally} {b : Backstage}
    (verdict : b.ruling.map (·.verdict) = c.verdict?) (counts : c.Counts tally)
    (counts' : (c.swap b).Counts tally) : b.outcome = c.backstage.outcome := by
  have verdict : b.ruling.map (·.verdict) = c.backstage.ruling.map (·.verdict) := verdict
  cases hr : c.backstage.ruling with
  | none =>
    have none : b.ruling = none := by simpa [hr] using verdict
    rw [Backstage.outcome_eq_none.2 none, Backstage.outcome_eq_none.2 hr]
  | some r =>
    obtain ⟨r', hr', same⟩ : ∃ r', b.ruling = some r' ∧ r'.verdict = r.verdict := by
      simpa [hr] using verdict
    have tally' : r'.report.summary = r.report.summary :=
      Option.some.inj ((counts' r' hr').trans (counts r hr).symm)
    simp [Backstage.outcome, hr, hr', same, tally']

/-- No conversation on the way to the end of a run has other counts than the end. -/
theorem counts_of_play {s : Setup} (hb : s.build = .ok c₀)
    (h : c₀.play? limit calls = some (c, log)) :
    c₀.Throughout limit (Counts c.accuracy?) calls := by
  refine throughout_of_play h fun x hx hc r hr => ?_
  have final : c.stage.hearing.ruling = some r :=
    ruling_of_reaches (orderly_of_reaches hb hx) hr hc
  simp [accuracy?, Hearing.accuracy?, final]

/-- Conversations that differ behind the scenes only go on doing so whatever their hosts mark and
whatever answers are brought, unless they record different counts. -/
theorem lockstep_alike (tally : Option Tally) :
    Lockstep Call.drives (Counts tally) (Counts tally) Alike where
  left h hc hp := h.aside_left hc hp
  right limit h hc := h.aside_right hc limit
  both {c c' d call limit answer} h hc hp counts := by
    obtain ⟨orderly, -, -, ruling, hp', verdict⟩ := h.perform hc hp
    refine ⟨_, hp', fun counts' => ⟨orderly, rfl, ?_⟩⟩
    exact outcome_eq_of_counts verdict counts counts'

/-- Two conversations with the same ruling that differ in their answers and marks only. -/
structure Judged (c c' : Conversation) : Prop where
  orderly : c.Orderly
  ruled : c.backstage.ruling.isSome
  aside : ∃ store marks, c' = c.swap ⟨store, marks, c.backstage.ruling⟩

/-- After the verdict the answers and the marks do not show in the dialogue at all. -/
theorem lockstep_judged : Lockstep Call.drives (fun _ => True) (fun _ => True) Judged where
  left {c c' d call limit answer} h hc hp := by
    have orderly : d.Orderly := kept_orderly.perform (t := {}) h.orderly hp
    obtain ⟨store, marks, rfl⟩ := h.aside
    obtain ⟨store', marks', answer', eq⟩ := perform?_of_not_drives (c := c) hc limit
    rw [hp] at eq
    cases eq
    exact ⟨orderly, h.ruled, store, marks, rfl⟩
  right {c c' call} limit h hc := by
    obtain ⟨store, marks, rfl⟩ := h.aside
    obtain ⟨store', marks', answer, eq⟩ :=
      perform?_of_not_drives (c := c.swap ⟨store, marks, c.backstage.ruling⟩) hc limit
    exact ⟨_, _, eq, h.orderly, h.ruled, store', marks', rfl⟩
  both {c c' d call limit answer} h hc hp _ := by
    obtain ⟨r, hr⟩ := Option.isSome_iff_exists.1 h.ruled
    obtain ⟨store, marks, rfl⟩ := h.aside
    have alike : c.Alike (c.swap ⟨store, marks, c.backstage.ruling⟩) := ⟨h.orderly, rfl, rfl⟩
    obtain ⟨orderly, -, -, ruling, hp', -⟩ := alike.perform hc hp
    have stays : d.backstage.ruling = some r :=
      (kept_ruling.perform (t := {}) ⟨h.orderly, hr⟩ hp).2
    have before' : (c.swap ⟨store, marks, c.backstage.ruling⟩).backstage.ruling = some r := hr
    have stays' : ruling = some r :=
      (kept_ruling.perform (t := {}) ⟨h.orderly.swap, before'⟩ hp').2
    refine ⟨_, hp', fun _ => ⟨orderly, by rw [stays]; rfl, store, marks, ?_⟩⟩
    rw [stays, stays']
    rfl

/-- Two conversations were set up with one script, pace and suspect, and have recorded the same
counts in the end, or none. Whenever their hosts have made the same calls, whatever they marked and
whatever answers were brought in between, those calls had the same answers, and both hosts see and
were told the same. Marking claims and bringing answers after the verdict changes nothing else. -/
theorem dialogue_eq_of_accuracy?_eq {s s' : Setup} {limit' : Nat} (hb : s.build = .ok c₀)
    (hb' : s'.build = .ok c₀') (twins : c₀.Twins c₀') (h : c₀.play? limit calls = some (c, log))
    (h' : c₀'.play? limit' calls' = some (c', log')) (counts : c'.accuracy? = c.accuracy?) :
    (∀ before before' d d' log₁ log₁', before <+: calls → before' <+: calls' →
      before.filter Call.drives = before'.filter Call.drives →
      c₀.play? limit before = some (d, log₁) → c₀'.play? limit' before' = some (d', log₁') →
      log₁'.filter (·.1.drives) = log₁.filter (·.1.drives) ∧
      (Transcript.ofLog log₁').told d' = (Transcript.ofLog log₁).told d ∧ d'.face = d.face) ∧
    (∀ n more more' d log₁, c.verdict?.isSome →
      more.filter Call.drives = more'.filter Call.drives → c.play? n more = some (d, log₁) →
      ∃ d' log₁', c.play? n more' = some (d', log₁') ∧
        log₁'.filter (·.1.drives) = log₁.filter (·.1.drives) ∧
        d' = { d with stage.walk.store := d'.store, stage.hearing.marks := d'.marks }) := by
  constructor
  · intro before before' d d' log₁ log₁' hp hp' same hd hd'
    -- One limit will do for both runs.
    have h := play?_of_le (Nat.le_max_left limit limit') h
    have h' := play?_of_le (Nat.le_max_right limit limit') h'
    have hd := play?_of_le (Nat.le_max_left limit limit') hd
    have hd' := play?_of_le (Nat.le_max_right limit limit') hd'
    have known := (counts_of_play hb h).upTo hp
    have known' := (counts_of_play hb' h').upTo hp'
    rw [counts] at known'
    obtain ⟨e, log₂, he, alike, logs⟩ :=
      (lockstep_alike c.accuracy?).play (twins.veiled hb hb').alike same hd known known'
    rw [hd'] at he
    cases he
    have front := alike.front
    have events : d'.stage.events = d.stage.events := by rw [front]; rfl
    exact ⟨logs, told_eq_of_filter_eq Call.drives rfl hd hd' logs events, by rw [front]; rfl⟩
  · intro n more more' d log₁ ruled same hd
    have ruling : c.stage.hearing.ruling.isSome := by
      simpa [verdict?, Hearing.verdict?] using ruled
    have judged : c.Judged c :=
      ⟨orderly_of_reaches hb ⟨limit, calls, log, h⟩, ruling, c.store, c.marks, rfl⟩
    obtain ⟨d', log₁', hd', after, logs⟩ := lockstep_judged.play judged same hd
      (fun _ _ _ _ _ => trivial) (fun _ _ _ _ _ => trivial)
    obtain ⟨store, marks, rfl⟩ := after.aside
    exact ⟨_, log₁', hd', logs, rfl⟩

end Conversation

namespace Gated

/-- The verdict with a mark that agrees with the answers. -/
def careful : List Call :=
  [.start, .annotate 1 .supported, .runUntilIdle, .choose "guilty", .runUntilIdle]

/-- The verdict with answers that come late, a mark that counts for nothing, and one made too late.
-/
def careless : List Call :=
  [.start, .annotate 20 .fabricated, .runUntilIdle, .finishLoad (.ok Reference.book),
    .choose "guilty", .annotate 8 .fabricated, .runUntilIdle, .click 1 none]

/-- Both ways of judging the case have the same counts, so the case tells both players the same. -/
theorem dialogue_eq_of_careless :
    ∃ c log c' log', setup.build = .ok opening ∧
      (setupWith .instant .loading).build = .ok (openingWith .instant .loading) ∧
      opening.Twins (openingWith .instant .loading) ∧
      opening.play? 10 careful = some (c, log) ∧
      (openingWith .instant .loading).play? 10 careless = some (c', log') ∧
      c.accuracy? = some ⟨11, 8, 19⟩ ∧ c'.accuracy? = c.accuracy? ∧ c'.marks ≠ c.marks ∧
      (Transcript.ofLog log').told c' = (Transcript.ofLog log).told c ∧ c'.face = c.face ∧
      ∃ d' log₁', c.play? 10 [.annotate 8 .fabricated, .runUntilIdle] = some (d', log₁') ∧
        d' = { c with stage.walk.store := d'.store, stage.hearing.marks := d'.marks } := by
  obtain ⟨c, log, played⟩ : ∃ c log, opening.play? 10 careful = some (c, log) := ⟨_, _, rfl⟩
  obtain ⟨c', log', played'⟩ : ∃ c' log',
      (openingWith .instant .loading).play? 10 careless = some (c', log') := ⟨_, _, rfl⟩
  have twins : opening.Twins (openingWith .instant .loading) := ⟨rfl, rfl, rfl⟩
  have counts : c.accuracy? = some ⟨11, 8, 19⟩ := by
    cases played
    decide
  have counts' : c'.accuracy? = some ⟨11, 8, 19⟩ := by
    cases played'
    decide
  obtain ⟨before, after⟩ := Conversation.dialogue_eq_of_accuracy?_eq build_setup
    (build_setupWith .instant .loading) twins played played' (counts'.trans counts.symm)
  obtain ⟨-, told, face⟩ := before careful careless c c' log log' List.prefix_rfl List.prefix_rfl
    rfl played played'
  have marks : c'.marks ≠ c.marks := by
    cases played
    cases played'
    decide
  have ruled : c.verdict?.isSome := by
    cases played
    rfl
  have still : c.play? 10 [.runUntilIdle] = some (c, [(.runUntilIdle, .time c.now)]) := by
    cases played
    rfl
  obtain ⟨d', log₁', again, -, aside⟩ :=
    after 10 [.runUntilIdle] [.annotate 8 .fabricated, .runUntilIdle] c _ ruled rfl still
  exact ⟨c, log, c', log', build_setup, build_setupWith .instant .loading, twins, played, played',
    counts, counts'.trans counts.symm, marks, told, face, d', log₁', again, aside⟩

end Gated

end Inquest
