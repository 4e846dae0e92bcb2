import Inquest.Proofs.Answers.Store
import Inquest.Proofs.Conversation.Secrecy
/-!
# Revealing the answers

After the verdict a host sees the answers in three ways: in the grading that the verdict locked in, in
the entry revealed for a claim, and by clicking on a claim. The grading is as old as the verdict and the
others look at the store as it is. They agree as long as no load was completed since.
-/

namespace Inquest

variable {read : Ron.Reading Book}

/-- A book that was read, or the one of the reference case. -/
def Book.Genuine (b : Book) (read : Ron.Reading Book) : Prop := b = Reference.book ∨ b.Parsed read

theorem Book.Genuine.sound {b : Book} (h : b.Genuine read) : b.Sound := by
  rcases h with rfl | parsed
  · exact sound_reference
  · exact parsed.sound

theorem Setup.sound_loadStore {s : Setup}
    (given : ∀ store book, s.store = .given store → store.book? = some book → book.Genuine read) :
    s.loadStore.Sound := by
  unfold loadStore
  cases hs : s.store with
  | standard =>
    rintro _ ⟨⟩
    exact Book.sound_reference
  | file text => exact AnswerStore.sound_ofFile text
  | given store => exact fun book hb => (given store book hs hb).sound

namespace Graded

variable {store : AnswerStore} {suspect : String} {marks : Marks} {report : Report} {g : ClaimGrade}
  {claim : ClaimId} {e : AnswerEntry}

/-- A row of a grading is about an entry of the store. -/
theorem found_of_mem (h : Graded store suspect marks report) (sound : store.Sound)
    (mem : g ∈ report.claims) :
    ∃ e, store.lookup suspect g.claim = .found e ∧ g.expected = e.category := by
  cases h with
  | loading | unknown => cases mem
  | known arrived found =>
    obtain ⟨e, he, rfl⟩ := List.mem_map.1 mem
    have key := AnswerStore.answerKey?_eq_some_iff.2 ⟨_, _, arrived, found, rfl⟩
    have entry := AnswerKey.mem_toList_ofEntries.1 he
    exact ⟨e, sound.lookup_eq_found_iff.2 ⟨_, key, entry⟩, rfl⟩

/-- Every entry of the store has its row in a grading. -/
theorem exists_mem_of_found (h : Graded store suspect marks report) (sound : store.Sound)
    (found : store.lookup suspect claim = .found e) : ∃ g ∈ report.claims, g.claim = claim := by
  obtain ⟨k, hk, he⟩ := sound.lookup_eq_found_iff.1 found
  obtain ⟨book, file, hb, hf, rfl⟩ := AnswerStore.answerKey?_eq_some_iff.1 hk
  cases h with
  | loading loading =>
    rw [loading] at hb
    cases hb
  | unknown arrived missing =>
    rw [arrived] at hb
    cases hb
    rw [missing] at hf
    cases hf
  | known arrived known =>
    rw [arrived] at hb
    cases hb
    rw [known] at hf
    cases hf
    have same : e.claim = claim :=
      AnswerKey.claim_of_mem_entries (ClaimTable.mem_entries_iff.2 he)
    have mem := AnswerKey.mem_toList_ofEntries.2 (same ▸ he)
    exact ⟨_, List.mem_map_of_mem mem, same⟩

end Graded

namespace Conversation

/-- A conversation about a suspect that has a store, and whose ruling, if there is one, holds a grading
by that store. -/
structure GradedBy (store : AnswerStore) (suspect : String) (c : Conversation) : Prop where
  orderly : c.Orderly
  answers : c.store = store
  about : c.stage.walk.suspect = suspect
  graded : ∀ r, c.stage.hearing.ruling = some r → ∃ marks, Graded store suspect marks r.report

variable {store : AnswerStore} {suspect : String} {ruling : Option Ruling} {c c' d : Conversation}
  {limit : Nat} {call : Call} {calls : List Call} {answer : Answer} {log : Log} {claim : ClaimId}
  {e : AnswerEntry} {highlighter : Option Category}

/-- Only a choice that is accepted touches the ruling, and nothing changes the suspect. -/
theorem steady_ruling : Steady fun _ c =>
    c.Orderly ∧ c.stage.walk.suspect = suspect ∧ c.stage.hearing.ruling = ruling where
  start {t c} h := by
    refine ⟨kept_orderly.start (t := t) h.1, ?_⟩
    obtain ⟨m, hm⟩ := h.1.mode
    by_cases fresh : m = .unstarted
    · subst fresh
      obtain ⟨sc, -, eq, -⟩ := start_of_unstarted h.1.sound hm
      rw [eq]
      exact h.2
    · rw [start_of_ne hm fresh]
      exact h.2
  task h hs := by
    obtain ⟨m, hm⟩ := h.1.mode
    obtain ⟨m', turn, -⟩ := turn_of_step? h.1.sound hm hs
    have same := turn.sameCase
    exact ⟨h.1.of_step? hs, same.suspect.trans h.2.1, same.ruling.trans h.2.2⟩
  settle h _ := ⟨h.1.aside (aside_settle _ _), h.2⟩
  refused h hv := by
    rw [choose_of_error h.1 hv]
    exact h
  annotate claim category h := ⟨h.1.aside (aside_annotate _ claim category), h.2⟩
  finishLoad result h := ⟨h.1.aside (aside_finishLoad _ result), h.2⟩
  takeEvents h := ⟨h.1.aside (aside_takeEvents _), h.2⟩

/-- Only a load changes the store. -/
theorem store_of_perform? (o : c.Orderly) (quiet : call.loads = false)
    (hp : c.perform? limit call = some (d, answer)) : d.store = c.store := by
  cases drives : call.drives with
  | true => exact (perform?_swap (b := c.backstage) o rfl drives hp).1
  | false =>
    cases call with
    | annotate claim category =>
      cases hp
      rfl
    | click claim highlighter =>
      cases hp
      unfold click
      split
      · rfl
      · split <;> rfl
    | finishLoad => cases quiet
    | _ => cases drives

/-- A call that brings no answers leaves the ruling to the store that there is. -/
theorem GradedBy.perform (h : c.GradedBy store suspect) (quiet : call.loads = false)
    (hp : c.perform? limit call = some (d, answer)) : d.GradedBy store suspect := by
  have orderly : d.Orderly := kept_orderly.perform (t := {}) h.orderly hp
  have same_store : d.store = store := (store_of_perform? h.orderly quiet hp).trans h.answers
  by_cases accepted : ∃ value, call = .choose value ∧ (c.choose value).2 = .ok ()
  · obtain ⟨value, rfl, ok⟩ := accepted
    cases hp
    obtain ⟨sc, number, o, sc', -, -, -, eq, -⟩ := choose_of_ok h.orderly ok
    have walk : (c.choose value).1.stage.walk = c.stage.walk := by
      rw [eq]
      exact Stage.walk_accept _
    refine ⟨orderly, same_store, (congrArg Walk.suspect walk).trans h.about, fun r hr => ?_⟩
    rw [eq] at hr
    have ruled := (Stage.ruling_accept _).symm.trans hr
    cases before : c.stage.hearing.ruling with
    | some r' =>
      rw [before] at ruled
      cases ruled
      exact h.graded r before
    | none =>
      rw [before, Option.none_or, Option.map_eq_some_iff] at ruled
      obtain ⟨verdict, -, rfl⟩ := ruled
      have store : c.stage.walk.store = store := h.answers
      have graded := c.stage.graded_grade?
      rw [store, h.about] at graded
      exact ⟨_, graded⟩
  · have same := steady_ruling.perform (t := {}) ⟨h.orderly, rfl, rfl⟩ hp
      fun value hv ok => accepted ⟨value, hv, ok⟩
    exact ⟨orderly, same_store, same.2.1.trans h.about, fun r hr => h.graded r (same.2.2 ▸ hr)⟩

theorem GradedBy.play (h : c.GradedBy store suspect) (quiet : ∀ call ∈ calls, call.loads = false)
    (hp : c.play? limit calls = some (d, log)) : d.GradedBy store suspect := by
  induction calls generalizing c log with
  | nil =>
    cases hp
    exact h
  | cons call calls ih =>
    obtain ⟨c', answer, rest, first, others, rfl⟩ := play?_cons.1 hp
    rw [List.forall_mem_cons] at quiet
    exact ih (h.perform quiet.1 first) quiet.2 others

/-- Books that are genuine make a sound store. -/
theorem sound_store_of_play (o : c.Orderly) (sound : c.store.Sound)
    (given : ∀ book, .finishLoad (.ok book) ∈ calls → book.Genuine read)
    (hp : c.play? limit calls = some (d, log)) : d.store.Sound := by
  induction calls generalizing c log with
  | nil =>
    cases hp
    exact sound
  | cons call calls ih =>
    obtain ⟨c', answer, rest, first, others, rfl⟩ := play?_cons.1 hp
    have orderly : c'.Orderly := kept_orderly.perform (t := {}) o first
    have sound' : c'.store.Sound := by
      cases loads : call.loads with
      | false =>
        rw [store_of_perform? o loads first]
        exact sound
      | true =>
        cases call with
        | finishLoad result =>
          cases first
          refine AnswerStore.sound_finish (s := c.store) fun book hb => (given book ?_).sound
          rw [hb]
          exact List.mem_cons_self
        | _ => cases loads
    exact ih orderly sound' (fun book mem => given book (List.mem_cons_of_mem _ mem)) others

/-- After the verdict an entry is revealed exactly if the store has it. -/
theorem revealed?_eq_some_iff (ruled : c.verdict?.isSome) : c.revealed? claim = some e ↔
    c.store.lookup c.stage.walk.suspect claim = .found e := by
  rw [revealed?, if_pos ruled]
  exact AnswerStore.found?_lookup_eq_some_iff

/-- A click opens the source of the entry that is revealed, if there is one. -/
theorem click_openSource_iff {path : String} : (c.click claim highlighter).2 = .openSource path ↔
    ∃ e, c.revealed? claim = some e ∧ e.source = some path := by
  rw [← Option.bind_eq_some_iff]
  unfold click
  cases source : (c.revealed? claim).bind (·.source) with
  | some opened => simp
  | none => cases highlighter <;> simp

/-- A click that opens a source changes nothing. -/
theorem click_of_source {path : String} (h : (c.revealed? claim).bind (·.source) = some path)
    (highlighter : Option Category) : c.click claim highlighter = (c, .openSource path) := by
  simp only [click, h]

/-- However a conversation was played, with books that are genuine, if no load was completed from some
time before the verdict on, then all that shows of the answers after the verdict agrees. The grading
that was locked in has a row for a claim exactly if an entry is revealed for it, and expects the
category of that entry. A click opens the source of the entry revealed, if it has one, and changes
nothing then; any other click is a stroke of the highlighter, or nothing without one. -/
theorem views_of_verdict {s : Setup} {c₀ c₁ : Conversation} {limit limit' : Nat}
    {before after : List Call} {log log' : Log} (hb : s.build = .ok c₀)
    (given : ∀ book, (∃ store, s.store = .given store ∧ store.book? = some book) ∨
      .finishLoad (.ok book) ∈ before → book.Genuine read)
    (h : c₀.play? limit before = some (c₁, log)) (unruled : c₁.verdict? = none)
    (h' : c₁.play? limit' after = some (c, log')) (quiet : ∀ call ∈ after, call.loads = false)
    (ruled : c.verdict?.isSome) :
    (∃ report, c.sheet? = some report ∧ ∀ claim,
      ((∃ g ∈ report.claims, g.claim = claim) ↔ ∃ e, c.revealed? claim = some e) ∧
      ∀ g ∈ report.claims, ∀ e, g.claim = claim → c.revealed? claim = some e →
        g.expected = e.category) ∧
    ∀ claim highlighter,
      (∀ path, (c.click claim highlighter).2 = .openSource path ↔
        ∃ e, c.revealed? claim = some e ∧ e.source = some path) ∧
      ((∃ path, (c.click claim highlighter).2 = .openSource path) →
        (c.click claim highlighter).1 = c) ∧
      ((¬∃ path, (c.click claim highlighter).2 = .openSource path) →
        c.click claim highlighter = match highlighter with
          | none => (c, .ignored)
          | some category =>
            ((c.annotate claim category).1, .marked (c.annotate claim category).2)) := by
  have orderly := orderly_of_build hb
  have sound₀ : c₀.store.Sound := by
    obtain ⟨script, pacing, -, rfl⟩ := Setup.build_eq_ok hb
    exact Setup.sound_loadStore fun store book hs hb => given book (.inl ⟨store, hs, hb⟩)
  have sound : c₁.store.Sound :=
    sound_store_of_play orderly sound₀ (fun book mem => given book (.inr mem)) h
  have none_yet : c₁.stage.hearing.ruling = none := by
    simpa [verdict?, Hearing.verdict?] using unruled
  have start : c₁.GradedBy c₁.store c₁.stage.walk.suspect :=
    ⟨kept_orderly.play (t := {}) orderly h, rfl, rfl, by simp [none_yet]⟩
  have graded := start.play quiet h'
  obtain ⟨r, hr⟩ : ∃ r, c.stage.hearing.ruling = some r := by
    simpa [verdict?, Hearing.verdict?, Option.isSome_iff_exists] using ruled
  obtain ⟨marks, grading⟩ := graded.graded r hr
  have revealed : ∀ {claim e}, c.revealed? claim = some e ↔
      c₁.store.lookup c₁.stage.walk.suspect claim = .found e := by
    intro claim e
    rw [revealed?_eq_some_iff ruled, graded.answers, graded.about]
  refine ⟨⟨r.report, by rw [sheet?, hr]; rfl, fun claim => ⟨⟨?_, ?_⟩, ?_⟩⟩, fun claim highlighter =>
    ⟨fun path => click_openSource_iff, ?_, ?_⟩⟩
  · rintro ⟨g, mem, rfl⟩
    obtain ⟨e, found, -⟩ := grading.found_of_mem sound mem
    exact ⟨e, revealed.2 found⟩
  · rintro ⟨e, he⟩
    exact grading.exists_mem_of_found sound (revealed.1 he)
  · rintro g mem e rfl he
    obtain ⟨e', found, expected⟩ := grading.found_of_mem sound mem
    have same : e' = e := Option.some.inj ((revealed.2 found).symm.trans he)
    exact same ▸ expected
  · rintro ⟨path, opened⟩
    have source := Option.bind_eq_some_iff.2 (click_openSource_iff.1 opened)
    rw [click_of_source source]
  · intro closed
    refine click_of_no_source ?_ highlighter
    refine Option.eq_none_iff_forall_ne_some.2 fun path source => closed ⟨path, ?_⟩
    exact click_openSource_iff.2 (Option.bind_eq_some_iff.1 source)

end Conversation

namespace Gated

/-- The case about another suspect, whose answers are still to come. -/
def setupAda : Setup where
  script := .given script
  pacing := .given .instant
  store := .given .loading
  suspect := some "Ada"

def openingAda : Conversation := { stage := .opening script .instant .loading (some "Ada") }

def informed : List Call :=
  [.start, .annotate 1 .fabricated, .finishLoad (.ok Ada.book), .runUntilIdle]

/-- The verdict, and a mark after it. -/
def judged : List Call := [.choose "guilty", .annotate 2 .supported]

/-- After the verdict the sheet and the entries revealed are about the same claims, and a click on a
claim with a source opens it. -/
theorem views_of_judged :
    ∃ c₁ log c log', setupAda.build = .ok openingAda ∧
      (∀ book, (∃ store, setupAda.store = .given store ∧ store.book? = some book) ∨
        .finishLoad (.ok book) ∈ informed → book.Genuine (Ron.parse Book.decode)) ∧
      openingAda.play? 10 informed = some (c₁, log) ∧ c₁.verdict? = none ∧
      c₁.play? 10 judged = some (c, log') ∧ (∀ call ∈ judged, call.loads = false) ∧
      c.verdict?.isSome ∧
      (∃ report, c.sheet? = some report ∧ ∀ claim,
        (∃ g ∈ report.claims, g.claim = claim) ↔ ∃ e, c.revealed? claim = some e) ∧
      (c.click 2 none).2 = .openSource "/ada.html" ∧ (c.click 2 none).1 = c ∧
      (c.click 1 none) = (c, .ignored) := by
  have build : setupAda.build = .ok openingAda := Setup.build_of_given sound_script rfl rfl
  have given : ∀ book, (∃ store, setupAda.store = .given store ∧ store.book? = some book) ∨
      .finishLoad (.ok book) ∈ informed → book.Genuine (Ron.parse Book.decode) := by
    rintro book (⟨store, ⟨⟩, none⟩ | brought)
    · cases none
    · obtain rfl : book = Ada.book := by simpa [informed] using brought
      exact .inr Ada.parsed_book
  have quiet : ∀ call ∈ judged, call.loads = false := by simp [judged, Call.loads]
  obtain ⟨c₁, log, played⟩ : ∃ c₁ log, openingAda.play? 10 informed = some (c₁, log) :=
    ⟨_, _, rfl⟩
  have unruled : c₁.verdict? = none := by
    cases played
    rfl
  obtain ⟨c, log', ended⟩ : ∃ c log', c₁.play? 10 judged = some (c, log') := by
    cases played
    exact ⟨_, _, rfl⟩
  have ruled : c.verdict?.isSome := by
    cases played
    cases ended
    rfl
  have opened : (c.click 2 none).2 = .openSource "/ada.html" := by
    cases played
    cases ended
    rfl
  have closed : (c.click 1 none).2 = .ignored := by
    cases played
    cases ended
    rfl
  obtain ⟨⟨report, sheet, agree⟩, clicks⟩ :=
    Conversation.views_of_verdict build given played unruled ended quiet ruled
  refine ⟨c₁, log, c, log', build, given, played, unruled, ended, quiet, ruled,
    ⟨report, sheet, fun claim => (agree claim).1⟩, opened, (clicks 2 none).2.1 ⟨_, opened⟩, ?_⟩
  exact (clicks 1 none).2.2 fun ⟨path, other⟩ => nomatch closed.symm.trans other

end Gated

end Inquest
