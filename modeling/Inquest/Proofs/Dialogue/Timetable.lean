import Inquest.Proofs.Dialogue.Visit
/-!
# Timetables kept

Each turn of a stage tells what comes next on the timetable of the scene, at its time. A scene that is
entered is told of last, so that nothing of its visit comes before it.
-/

namespace Inquest

/-- The events enter a scene at most with the last of them, and then the mode is the lead-in of that
scene, which begins at the given time. -/
def Mode.EntersLast (m : Mode) (now : Millis) (es : List Event) : Prop :=
  ∀ name rest, .sceneEntered name :: rest <:+ es →
    rest = [] ∧ ∃ sc, sc.name = name ∧ m = .leadIn sc (now + sc.leadIn)

namespace Stage

variable {s t u : Stage} {v : Visit} {m m' : Mode} {sc : Scene} {k : Nat} {now : Millis}
  {es front : List Event} {e : Event}

theorem entersLast_of_not_mem (h : ∀ name, .sceneEntered name ∉ es) : m.EntersLast now es :=
  fun name _ suffix => absurd (suffix.subset List.mem_cons_self) (h name)

theorem entersLast_concat (h : ∀ name, .sceneEntered name ∉ front)
    (last : ∀ name, e = .sceneEntered name → ∃ sc, sc.name = name ∧ m = .leadIn sc (now + sc.leadIn)) :
    m.EntersLast now (front ++ [e]) := by
  intro name rest suffix
  rcases List.suffix_concat_iff.1 suffix with none | ⟨before, eq, suffix⟩
  · cases none
  · cases before with
    | nil =>
      cases eq
      exact ⟨rfl, last name rfl⟩
    | cons e' before =>
      cases eq
      exact absurd (List.IsSuffix.subset ‹_› List.mem_cons_self) (h name)

theorem entersLast_entering (now : Millis) (sc : Scene) :
    (Mode.leadIn sc (now + sc.leadIn)).EntersLast now [.sceneEntered sc.name] := by
  refine entersLast_concat (fun _ => List.not_mem_nil) ?_
  rintro name ⟨⟩
  exact ⟨sc, rfl, rfl⟩

/-- The moment at which a scene is entered begins its visit. -/
theorem follows_of_entersLast {x : Moment} {after : Chronicle} {name : String} (pacing : Pacing)
    (last : m.EntersLast t.agenda.now es) (events : t.events.toList = s.events.toList ++ es)
    (suffix : x :: after <:+ s.moments t) (entered : x.event = .sceneEntered name) :
    ∃ sc, sc.name = name ∧ m.scene? = some sc ∧ (x.visit pacing sc).Follows 0 after t m := by
  rw [moments_of_events es events] at suffix
  have told : .sceneEntered name :: after.map (·.event) <:+ es := by
    simpa [entered, Function.comp_def] using suffix.map (·.event)
  have stage : x.stage = t := by
    obtain ⟨e, -, rfl⟩ := List.mem_map.1 (suffix.subset List.mem_cons_self)
    rfl
  obtain ⟨none, sc, rfl, rfl⟩ := last name _ told
  obtain rfl : after = [] := List.map_eq_nil_iff.1 none
  refine ⟨sc, rfl, rfl, Visit.follows_of_quiet (by simp) (.leadIn ?_ rfl ?_)⟩
  · rw [← stage]
    rfl
  · rw [Visit.restTime_zero, ← stage]
    rfl

/-- What changes neither the verdict nor the suspect changes nothing of what the stage waits for. -/
theorem Awaits.of_ruling (h : s.Awaits v k m) (ruling : t.hearing.ruling = s.hearing.ruling)
    (suspect : t.walk.suspect = s.walk.suspect) : t.Awaits v k m := by
  cases h with
  | leadIn lines none time =>
    refine .leadIn ?_ none time
    rw [linesOf_of_ruling ruling suspect]
    exact lines
  | typing lines number time => exact .typing lines number time
  | pause lines number time => exact .pause lines number time

/-- When the narrator has finished with a scene, the time of its exit has come. -/
theorem Hushed.exitTime (h : s.Hushed m sc t)
    (prompt : ∀ due, m.due? = some due → s.agenda.now ≤ due) (waits : s.Awaits v k m) :
    k = v.lines.length ∧ t.agenda.now = v.exitTime := by
  cases h with
  | @silent _ due lines =>
    cases waits with
    | leadIn same none time =>
      have all : k = v.lines.length := by rw [none, ← same, lines]; rfl
      have now : max s.agenda.now due = due := Millis.max_eq_right (prompt _ rfl)
      rw [now_wake, now, time, Visit.exitTime, ← all, none]
      exact ⟨rfl, rfl⟩
  | @drained _ due =>
    cases waits with
    | pause lines number time =>
      have all : k = v.lines.length := by rw [lines, ← number, List.append_nil]
      have now : max s.agenda.now due = due := Millis.max_eq_right (prompt _ rfl)
      refine ⟨all, ?_⟩
      rw [Visit.exitTime, ← all, ← time]
      exact now

/-- The narrator says nothing more, and does not leave the scene. -/
theorem Hushed.tells (h : s.Hushed m sc t) : ∃ front, t.events.toList = s.events.toList ++ front ∧
    ∀ e ∈ front, e.isExit = false ∧ e.line? = none := by
  cases h with
  | silent => exact ⟨[], by simp, by simp⟩
  | drained => exact ⟨[.queueDrained], by simp, by simp [Event.isExit, Event.line?]⟩

/-- A scene is left with one event, at once. -/
theorem Leaves.tells (h : s.Leaves sc m t) :
    ∃ e, t.events.toList = s.events.toList ++ [e] ∧ e.isExit ∧ t.agenda.now = s.agenda.now ∧
      ∀ name, e = .sceneEntered name → ∃ sc', sc'.name = name ∧
        m = .leadIn sc' (t.agenda.now + sc'.leadIn) := by
  cases h with
  | @proceed next sc' =>
    refine ⟨.sceneEntered sc'.name, toList_events_entering, rfl, rfl, ?_⟩
    rintro _ ⟨⟩
    exact ⟨sc', rfl, rfl⟩
  | ask => exact ⟨.decisionPresented (Mode.decision sc s.hearing.nextDecision), by simp, rfl, rfl, nofun⟩
  | close => exact ⟨.finished, by simp, rfl, rfl, nofun⟩

/-- A turn keeps to the timetable. -/
theorem Turn.follows (h : s.Turn m m' t) (pace : v.pacing = s.hearing.narrator.pacing)
    (prompt : ∀ due, m.due? = some due → s.agenda.now ≤ due) (waits : s.Awaits v k m) :
    v.Follows k (s.moments t) t m' := by
  have clock : ∀ due, m.due? = some due → max s.agenda.now due = due := fun due hdue =>
    Millis.max_eq_right (prompt due hdue)
  cases h with
  | @begin sc due line rest lines =>
    cases waits with
    | leadIn same none time =>
      have first : v.lines = [] ++ line :: rest := same.symm.trans lines
      have next := Visit.revealTime_eq first
      rw [moments_of_events [.typingStarted] (by simp)]
      apply Visit.follows_of_quiet (by simp [Event.isExit, Event.line?])
      refine .typing first none.symm ?_
      rw [clock due rfl, time, none, typingDelay, ← pace]
      exact next.symm
  | @reveal sc due line rest =>
    cases waits with
    | @typing _ _ before _ _ lines number time =>
      let said : Line := (s.wake due).nextLine line
      have text : v.lines[k]? = some line := by simp [lines, ← number]
      have rest_lines : v.lines = (before ++ [line]) ++ rest := by
        rw [lines, List.append_assoc]
        rfl
      rw [moments_of_events ([.typingStopped] ++ [.lineRevealed said]) (by simp [said]),
        List.map_append]
      refine Visit.follows_of_line said (by simp [Event.isExit, Event.line?]) rfl
        ⟨rfl, text, (clock due rfl).trans time⟩ (.pause rest_lines ?_ ?_)
      · simp [number]
      · rw [clock due rfl, time, ← pace, Visit.restTime_succ]
  | @goOn sc due line rest =>
    cases waits with
    | pause lines number time =>
      have next := Visit.revealTime_eq lines
      rw [moments_of_events [.typingStarted] (by simp)]
      apply Visit.follows_of_quiet (by simp [Event.isExit, Event.line?])
      refine .typing lines number ?_
      rw [clock due rfl, time, typingDelay, ← pace, ← number]
      exact next.symm
  | leave hushed leaves =>
    obtain ⟨all, time⟩ := hushed.exitTime prompt waits
    obtain ⟨front, events, quiet⟩ := hushed.tells
    obtain ⟨e, events', exit, now, -⟩ := leaves.tells
    rw [events, List.append_assoc] at events'
    rw [moments_of_events _ events', List.map_append]
    apply Visit.follows_of_exit ⟨t, e⟩ _ exit all (now.trans time)
    simpa using quiet

/-- A turn that enters a scene tells of it last. -/
theorem Turn.entersLast (h : s.Turn m m' t) :
    ∃ es, t.events.toList = s.events.toList ++ es ∧ m'.EntersLast t.agenda.now es := by
  cases h with
  | begin | goOn => exact ⟨[.typingStarted], by simp, entersLast_of_not_mem (by simp)⟩
  | @reveal sc due line =>
    let said : Line := (s.wake due).nextLine line
    exact ⟨[.typingStopped, .lineRevealed said], by simp [said], entersLast_of_not_mem (by simp)⟩
  | leave hushed leaves =>
    obtain ⟨front, events, quiet⟩ := hushed.tells
    obtain ⟨e, events', -, -, last⟩ := leaves.tells
    refine ⟨front ++ [e], by rw [events', events, List.append_assoc], entersLast_concat ?_ last⟩
    intro name mem
    cases (quiet _ mem).1

/-- A reply that stands tells last of the scene that is entered after it. -/
theorem entersLast_accept (s : Stage) (r : Reply) (sc : Scene) :
    ∃ es, ((s.accept r).entering sc).events.toList = s.events.toList ++ es ∧
      (Mode.leadIn sc (s.agenda.now + sc.leadIn)).EntersLast s.agenda.now es := by
  refine ⟨_, events_entering_accept r sc, entersLast_concat ?_ ?_⟩
  · intro name mem
    cases r.verdict <;> split at mem <;> simp at mem
  · rintro name ⟨⟩
    exact ⟨sc, rfl, rfl⟩

end Stage

end Inquest
