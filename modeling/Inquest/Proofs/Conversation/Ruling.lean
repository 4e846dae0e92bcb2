import Inquest.Proofs.Conversation.Mode
/-!
# The ruling of a conversation

The first choice that is accepted at a gate for the verdict locks in the verdict and the grading of
the marks as they are then. No ruling is there before it, and nothing that happens later changes the
ruling, hands another verdict to the host, or tells of one.
-/

namespace Inquest

/-- How a grading comes about: from the answers for the suspect, or as nothing but zeros while they
are loading and where the suspect is unknown. -/
inductive Graded (store : AnswerStore) (suspect : String) (marks : Marks) : Report → Prop where
  | known {book : Book} {file : SuspectFile} (arrived : store.book? = some book)
      (found : book.suspect? suspect = some file) :
    Graded store suspect marks ((AnswerKey.ofEntries file.entries).grade marks)
  | loading (loading : store = .loading) : Graded store suspect marks ⟨⟨0, 0, 0⟩, []⟩
  | unknown {book : Book} (arrived : store.book? = some book)
      (missing : book.suspect? suspect = none) : Graded store suspect marks ⟨⟨0, 0, 0⟩, []⟩

namespace Stage

variable {s t : Stage} {m m' : Mode}

/-- What the stage would lock in is a grading of its marks. -/
theorem graded_grade? (s : Stage) :
    Graded s.walk.store s.walk.suspect s.hearing.marks (s.grade?.getD {}) := by
  cases hb : s.walk.store.book? with
  | none =>
    have loading : s.walk.store = .loading := by
      cases hs : s.walk.store with
      | loading => rfl
      | ready | fallback => rw [hs] at hb; cases hb
    have none : s.grade? = none := by simp [grade?, AnswerStore.answerKey?, hb]
    rw [none]
    exact .loading loading
  | some book =>
    cases hf : book.suspect? s.walk.suspect with
    | none =>
      have none : s.grade? = none := by simp [grade?, AnswerStore.answerKey?, hb, hf]
      rw [none]
      exact .unknown hb hf
    | some file =>
      have some : s.grade? = some ((AnswerKey.ofEntries file.entries).grade s.hearing.marks) := by
        simp [grade?, AnswerStore.answerKey?, hb, hf]
      rw [some]
      exact .known hb hf

/-- No turn tells of a verdict. -/
theorem Turn.verdicts_eq (h : s.Turn m m' t) :
    verdicts t.events.toList = verdicts s.events.toList := by
  cases h with
  | leave hushed leaves =>
    cases hushed <;> cases leaves <;> simp [entering, verdicts, Event.verdict?]
  | begin | reveal | goOn => simp [verdicts, Event.verdict?]

end Stage

namespace Conversation

/-- The choice of a value is accepted, and the gate that asks is one for the verdict. -/
def Judges (c : Conversation) (value : String) : Prop :=
  (c.choose value).2 = .ok () ∧ ∃ d sc options, c.decision? = some d ∧
    c.script.scene? d.scene = some sc ∧ sc.exit = .gate .verdict options

/-- A run in which no gate for the verdict is answered. -/
def Unjudged (limit : Nat) : Conversation → List Call → Prop
  | _, [] => True
  | c, call :: calls => (∀ value, call = .choose value → ¬c.Judges value) ∧
    ∀ d answer, c.perform? limit call = some (d, answer) → d.Unjudged limit calls

/-- A conversation with the given ruling that has handed over and told of the given verdicts. -/
structure Ruled (ruling : Option Ruling) (vs : List Verdict) (t : Transcript) (c : Conversation) :
    Prop where
  orderly : c.Orderly
  ruling : c.stage.hearing.ruling = ruling
  reported : c.reported = vs
  told : verdicts (t.told c) = vs

variable {ruling : Option Ruling} {vs : List Verdict} {t : Transcript} {c c' : Conversation}
  {sc : Scene} {number : Nat} {value : String}

theorem Judges.exit (h : c.Judges value) (hm : c.In (.asking sc number)) :
    ∃ options, sc.exit = .gate .verdict options := by
  obtain ⟨-, d, sc', options, shown, found, exit⟩ := h
  obtain rfl : d = Mode.decision sc number :=
    Option.some.inj (shown.symm.trans (decision?_of_asking hm))
  have same : sc' = sc := Option.some.inj (found.symm.trans (hm.stage.known sc rfl))
  exact ⟨options, same ▸ exit⟩

/-- A choice that is accepted at another gate gives no verdict. -/
theorem verdict?_of_not_judges (hm : c.In (.asking sc number)) (hv : (c.choose value).2 = .ok ())
    (h : ¬c.Judges value) : sc.exit.verdict? value = none := by
  have asked := decision?_of_asking hm
  cases he : sc.exit with
  | gate kind options =>
    cases kind with
    | choice => rfl
    | verdict => exact absurd ⟨hv, _, sc, options, asked, hm.stage.known sc rfl, he⟩ h
  | proceed | close => rfl

/-- An accepted choice hands over the verdict it gives, if it is the first. -/
theorem Ruled.choose (h : c.Ruled ruling vs t) (hv : (c.choose value).2 = .ok ()) :
    ∃ sc number o, c.In (.asking sc number) ∧ sc.exit.options.find? (·.value = value) = some o ∧
      (c.choose value).1.Ruled
        (ruling.or ((sc.exit.verdict? value).map (⟨·, c.grade?.getD {}⟩)))
        (vs ++ if ruling.isSome then [] else (sc.exit.verdict? value).toList)
        { t with picks := t.picks ++ [value] } := by
  obtain ⟨sc, number, o, sc', hm, ho, -, eq, -⟩ := choose_of_ok h.orderly hv
  have word : o.value = value := by simpa using List.find?_some ho
  refine ⟨sc, number, o, hm, ho, ?_⟩
  constructor
  · exact kept_orderly.chosen (t := t) h.orderly hv
  · rw [eq]
    refine (Stage.ruling_accept _).trans ?_
    rw [h.ruling]
    simp only [Scene.reply, word]
    rfl
  · rw [eq]
    refine (Stage.reported_accept _).trans ?_
    rw [h.ruling]
    simp only [Scene.reply, word]
    exact congrArg (· ++ _) h.reported
  · rw [eq, Transcript.told, Stage.toList_events_entering]
    simp only [verdicts_append, Stage.verdicts_accept, h.ruling, Scene.reply, word]
    rw [← h.told, Transcript.told, verdicts_append]
    simp [verdicts, Event.verdict?]

/-- What tells nothing and is no answer leaves the ruling alone. -/
theorem Ruled.aside (h : c.Ruled ruling vs t) (a : c.Aside c') {t' : Transcript}
    (told : t'.told c' = t.told c) : c'.Ruled ruling vs t' :=
  ⟨h.orderly.aside a, a.ruling.trans h.ruling, a.reported.trans h.reported, told ▸ h.told⟩

/-- Only an accepted choice touches the ruling. -/
theorem steady_ruled : Steady (fun t c => c.Ruled ruling vs t) where
  start {t c} h := by
    obtain ⟨m, hm⟩ := h.orderly.mode
    by_cases fresh : m = .unstarted
    · subst fresh
      obtain ⟨sc, -, eq, -⟩ := start_of_unstarted h.orderly.sound hm
      refine ⟨kept_orderly.start (t := t) h.orderly, ?_, ?_, ?_⟩ <;> rw [eq]
      · exact h.ruling
      · exact h.reported
      · rw [Transcript.told, Stage.toList_events_entering, ← List.append_assoc, verdicts_append]
        exact (List.append_nil _).trans h.told
    · rw [start_of_ne hm fresh]
      exact h
  task {t c _ c'} h hs := by
    obtain ⟨m, hm⟩ := h.orderly.mode
    obtain ⟨m', turn, -⟩ := turn_of_step? h.orderly.sound hm hs
    have same := turn.sameCase
    refine ⟨kept_orderly.task (t := t) h.orderly hs, same.ruling.trans h.ruling,
      same.reported.trans h.reported, ?_⟩
    rw [Transcript.told, verdicts_append, turn.verdicts_eq, ← verdicts_append]
    exact h.told
  settle h _ := h.aside (aside_settle _ _) rfl
  refused h hv := by
    rw [choose_of_error h.orderly hv]
    exact h
  annotate claim category h := h.aside (aside_annotate _ claim category) rfl
  finishLoad result h := h.aside (aside_finishLoad _ result) rfl
  takeEvents h := h.aside (aside_takeEvents _) (by simp [Transcript.told, takeEvents])

/-- Once there is a ruling, nothing changes it. -/
theorem kept_ruled {r : Ruling} : Kept (fun t c => c.Ruled (some r) vs t) where
  toSteady := steady_ruled
  chosen h hv := by
    obtain ⟨sc, number, o, -, -, after⟩ := h.choose hv
    simpa using after

theorem ruled_of_build {s : Setup} (h : s.build = .ok c) : c.Ruled none [] {} := by
  have orderly := orderly_of_build h
  obtain ⟨script, pacing, -, rfl⟩ := Setup.build_eq_ok h
  exact ⟨orderly, rfl, rfl, rfl⟩

/-- Without an answer to a gate for the verdict there is no ruling. -/
theorem Ruled.play_of_unjudged (h : c.Ruled none [] t) {limit : Nat} {calls : List Call} {log : Log}
    (unjudged : c.Unjudged limit calls) (hp : c.play? limit calls = some (c', log)) :
    c'.Ruled none [] (log.foldl .add t) := by
  induction calls generalizing c t log with
  | nil =>
    cases hp
    exact h
  | cons call calls ih =>
    obtain ⟨d, answer, rest, hd, hr, rfl⟩ := play?_cons.1 hp
    obtain ⟨quiet, later⟩ := unjudged
    have unruled : d.Ruled none [] (t.add (call, answer)) := by
      by_cases accepted : ∃ value, call = .choose value ∧ (c.choose value).2 = .ok ()
      · obtain ⟨value, rfl, ok⟩ := accepted
        cases hd
        obtain ⟨sc, number, o, hm, -, after⟩ := h.choose ok
        rw [verdict?_of_not_judges hm ok (quiet value rfl)] at after
        rw [ok]
        exact after
      · exact steady_ruled.perform h hd fun value hv ok => accepted ⟨value, hv, ok⟩
    exact ih unruled (later d answer hd) hr

/-- The first answer to a gate for the verdict gives the ruling. -/
theorem Ruled.judged (h : c.Ruled none [] t) (hj : c.Judges value) :
    ∃ verdict report, Verdict.ofWord? value = some verdict ∧
      Graded c.store c.stage.walk.suspect c.marks report ∧
      (c.choose value).1.Ruled (some ⟨verdict, report⟩) [verdict]
        (t.add (.choose value, .outcome (.ok ()))) := by
  obtain ⟨sc, number, o, hm, ho, after⟩ := h.choose hj.1
  obtain ⟨options, exit⟩ := hj.exit hm
  have word : o.value = value := by simpa using List.find?_some ho
  have mem : o ∈ options := by
    rw [exit] at ho
    exact List.mem_of_find?_eq_some ho
  have sound := h.orderly.sound.exit (hm.stage.known sc rfl)
  obtain ⟨verdict, hw⟩ := Option.isSome_iff_exists.1 (sound.words options exit o mem)
  rw [word] at hw
  have given : sc.exit.verdict? value = some verdict := by simp [exit, Exit.verdict?, hw]
  rw [given] at after
  exact ⟨verdict, _, hw, c.stage.graded_grade?, after⟩

/-- A run that ends without a ruling has answered no gate for the verdict. -/
theorem Ruled.unjudged_of_play (h : c.Ruled none [] t) {limit : Nat} {calls : List Call} {log : Log}
    (hp : c.play? limit calls = some (c', log)) (unruled : c'.stage.hearing.ruling = none) :
    c.Unjudged limit calls := by
  induction calls generalizing c t log with
  | nil => trivial
  | cons call calls ih =>
    obtain ⟨d, answer, rest, hd, hr, rfl⟩ := play?_cons.1 hp
    have quiet : ∀ value, call = .choose value → ¬c.Judges value := by
      rintro value rfl judges
      cases hd
      obtain ⟨verdict, report, -, -, locked⟩ := h.judged judges
      have ruled := (kept_ruled.play locked hr).ruling
      rw [unruled] at ruled
      cases ruled
    refine ⟨quiet, fun d' answer' hd' => ?_⟩
    rw [hd] at hd'
    cases hd'
    have once : c.Unjudged limit [call] := ⟨quiet, fun _ _ _ => trivial⟩
    have first : c.play? limit [call] = some (d, [(call, answer)]) :=
      play?_cons.2 ⟨d, answer, [], hd, rfl, rfl⟩
    exact ih (h.play_of_unjudged once first) hr

/-- Whatever its host does, a conversation that was set up has no ruling before a choice is accepted
at a gate for the verdict. That choice locks in its verdict with the grading of the marks, and hands
the verdict over and tells of it once; after that nothing changes the ruling, and no verdict
follows. -/
theorem ruling_of_first_judgment {s : Setup} {c₀ c₁ : Conversation} {limit : Nat}
    {before : List Call} {log₁ : Log} (hb : s.build = .ok c₀)
    (h : c₀.play? limit before = some (c₁, log₁)) (unjudged : c₀.Unjudged limit before) :
    (c₁.stage.hearing.ruling = none ∧ c₁.reported = [] ∧
      verdicts ((Transcript.ofLog log₁).told c₁) = []) ∧
    ∀ value, c₁.Judges value → ∃ verdict report,
      Verdict.ofWord? value = some verdict ∧
      Graded c₁.store c₁.stage.walk.suspect c₁.marks report ∧
      (c₁.choose value).1.stage.hearing.ruling = some ⟨verdict, report⟩ ∧
      (c₁.choose value).1.reported = [verdict] ∧
      verdicts (((Transcript.ofLog log₁).add (.choose value, .outcome (.ok ()))).told
        (c₁.choose value).1) = [verdict] ∧
      ∀ limit' later c log₂, (c₁.choose value).1.play? limit' later = some (c, log₂) →
        c.verdict? = some verdict ∧ c.accuracy? = some report.summary ∧ c.sheet? = some report ∧
        c.reported = [verdict] ∧
        verdicts ((Transcript.ofLog (log₁ ++ (.choose value, .outcome (.ok ())) :: log₂)).told c) =
          [verdict] := by
  have unruled : c₁.Ruled none [] (Transcript.ofLog log₁) :=
    (ruled_of_build hb).play_of_unjudged unjudged h
  refine ⟨⟨unruled.ruling, unruled.reported, unruled.told⟩, fun value hj => ?_⟩
  obtain ⟨verdict, report, word, graded, locked⟩ := unruled.judged hj
  refine ⟨verdict, report, word, graded, locked.ruling, locked.reported, locked.told, ?_⟩
  intro limit' later c log₂ h₂
  have kept := kept_ruled.play locked h₂
  have transcript : Transcript.ofLog (log₁ ++ (.choose value, .outcome (.ok ())) :: log₂) =
      log₂.foldl .add ((Transcript.ofLog log₁).add (.choose value, .outcome (.ok ()))) := by
    rw [Transcript.ofLog, List.foldl_append]
    rfl
  refine ⟨?_, ?_, ?_, kept.reported, transcript ▸ kept.told⟩
  · simp [verdict?, Hearing.verdict?, kept.ruling]
  · simp [accuracy?, Hearing.accuracy?, kept.ruling]
  · simp [sheet?, kept.ruling]

end Conversation

namespace Gated

/-- A mark, and a word that is no answer, before the verdict. -/
def doubts : List Call := [.start, .annotate 3 .supported, .runUntilIdle, .choose "maybe"]

theorem unjudged_doubts : opening.Unjudged 10 doubts := by
  refine ⟨nofun, ?_⟩
  rintro _ _ ⟨⟩
  refine ⟨nofun, ?_⟩
  rintro _ _ ⟨⟩
  refine ⟨nofun, ?_⟩
  rintro _ _ ⟨⟩
  refine ⟨?_, fun _ _ _ => trivial⟩
  rintro _ ⟨⟩ ⟨refused, -⟩
  cases refused

/-- The verdict of the case, with a mark made before it, stays as it was given. -/
theorem ruling_of_guilty :
    ∃ c₁ log₁ report, setup.build = .ok opening ∧ opening.play? 10 doubts = some (c₁, log₁) ∧
      opening.Unjudged 10 doubts ∧ c₁.Judges "guilty" ∧
      c₁.stage.hearing.ruling = none ∧ Graded .reference "Flora Jasmine" c₁.marks report ∧
      (c₁.choose "guilty").1.stage.hearing.ruling = some ⟨.guilty, report⟩ ∧
      ∀ limit later c log₂, (c₁.choose "guilty").1.play? limit later = some (c, log₂) →
        c.verdict? = some .guilty ∧ c.sheet? = some report ∧ c.reported = [.guilty] := by
  have judges : ∀ c₁ log₁, opening.play? 10 doubts = some (c₁, log₁) → c₁.Judges "guilty" := by
    rintro _ _ ⟨⟩
    exact ⟨rfl, _, ask, _, rfl, rfl, rfl⟩
  obtain ⟨c₁, log₁, played⟩ : ∃ c₁ log₁, opening.play? 10 doubts = some (c₁, log₁) := ⟨_, _, rfl⟩
  obtain ⟨⟨none, -, -⟩, first⟩ :=
    Conversation.ruling_of_first_judgment build_setup played unjudged_doubts
  obtain ⟨verdict, report, word, graded, locked, -, -, later⟩ := first _ (judges _ _ played)
  cases word
  refine ⟨c₁, log₁, report, build_setup, played, unjudged_doubts, judges _ _ played, none, ?_,
    locked, fun limit calls c log₂ h => ?_⟩
  · cases played
    exact graded
  · obtain ⟨ruled, -, sheet, reported, -⟩ := later limit calls c log₂ h
    exact ⟨ruled, sheet, reported⟩

end Gated

end Inquest
