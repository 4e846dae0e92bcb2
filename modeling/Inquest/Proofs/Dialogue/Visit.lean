import Inquest.Proofs.Dialogue.Progress
import Inquest.Proofs.Dialogue.Record
/-!
# Visits of scenes

When a scene is entered, the times of all that it does are fixed: of each line, and of its exit. The
times are exact sums of the lead-in, the typing times and the pauses, cut off only at the end of
time. What has been told since the scene was entered is held against that timetable.
-/

namespace Inquest

/-- A visit of a scene: when the scene is entered, and what it says after its lead-in. -/
structure Visit where
  entered : Millis
  leadIn : Millis
  lines : List String
  pacing : Pacing

namespace Visit

/-- The typing times of the first `k` lines together. -/
def typed (v : Visit) (k : Nat) : Nat :=
  ((v.lines.take k).map fun line => (v.pacing.typingDelay line).val).sum

/-- When the line with the index `k` is revealed: the typing times are those of the lines up to it,
and there is a pause after each line before it. -/
def revealTime (v : Visit) (k : Nat) : Millis :=
  .ofNat (v.entered.val + v.leadIn.val + v.typed (k + 1) + k * v.pacing.linePause.val)

/-- When the first `k` lines have been said and the pauses after them are over. -/
def restTime (v : Visit) (k : Nat) : Millis :=
  .ofNat (v.entered.val + v.leadIn.val + v.typed k + k * v.pacing.linePause.val)

/-- When the scene is left: all lines have been said, with a pause after each. -/
def exitTime (v : Visit) : Millis := v.restTime v.lines.length

variable {v : Visit} {j k : Nat}

theorem typed_le (h : j ≤ k) : v.typed j ≤ v.typed k := by
  have sub : (v.lines.take j).Sublist (v.lines.take k) :=
    (List.take_prefix_take_left h).sublist
  exact List.Sublist.sum_le_sum (sub.map _) (by simp)

theorem restTime_zero : v.restTime 0 = v.entered + v.leadIn := by
  simp [restTime, typed]
  rfl

theorem revealTime_eq {before rest : List String} {line : String}
    (lines : v.lines = before ++ line :: rest) :
    v.revealTime before.length = v.restTime before.length + v.pacing.typingDelay line := by
  have typed : v.typed (before.length + 1) =
      v.typed before.length + (v.pacing.typingDelay line).val := by
    simp [Visit.typed, lines]
  rw [revealTime, restTime, Millis.ofNat_add, typed]
  congr 1
  omega

theorem restTime_succ : v.restTime (k + 1) = v.revealTime k + v.pacing.linePause := by
  rw [revealTime, restTime, Millis.ofNat_add, Nat.succ_mul]
  congr 1
  omega

theorem restTime_le_revealTime (h : j ≤ k) : v.restTime j ≤ v.revealTime k := by
  have typed : v.typed j ≤ v.typed (k + 1) := typed_le (by omega)
  have pauses := Nat.mul_le_mul_right v.pacing.linePause.val h
  apply Millis.ofNat_le_ofNat
  omega

theorem restTime_le_restTime (h : j ≤ k) : v.restTime j ≤ v.restTime k := by
  have typed : v.typed j ≤ v.typed k := typed_le h
  have pauses := Nat.mul_le_mul_right v.pacing.linePause.val h
  apply Millis.ofNat_le_ofNat
  omega

theorem revealTime_le_restTime (h : j < k) : v.revealTime j ≤ v.restTime k := by
  have next : v.revealTime j ≤ v.restTime (j + 1) := by
    rw [restTime_succ]
    exact Millis.le_add _ _
  exact Millis.le_trans next (restTime_le_restTime h)

theorem revealTime_le_revealTime (h : j ≤ k) : v.revealTime j ≤ v.revealTime k := by
  rcases Nat.eq_or_lt_of_le h with rfl | h
  · exact Millis.le_refl _
  · exact Millis.le_trans (revealTime_le_restTime h) (restTime_le_revealTime (Nat.le_refl k))

end Visit

/-- An event, with the stage as the step that told it left it. -/
structure Moment where
  stage : Stage
  event : Event

def Moment.time (x : Moment) : Millis := x.stage.agenda.now

def Moment.visit (x : Moment) (pacing : Pacing) (sc : Scene) : Visit :=
  ⟨x.time, sc.leadIn, Narrator.spoken (x.stage.linesOf sc), pacing⟩

def Event.isExit : Event → Bool
  | sceneEntered _ | decisionPresented _ | finished => true
  | _ => false

abbrev Chronicle := List Moment

namespace Chronicle

/-- How the scene was left, after whose entry all this was told. -/
def exit? (ms : Chronicle) : Option Moment := ms.find? (·.event.isExit)

/-- The lines that were said before the scene was left. -/
def said (ms : Chronicle) : List Line :=
  revealed ((ms.takeWhile fun x => !x.event.isExit).map (·.event))

variable {ms es : Chronicle}

theorem exit?_append : exit? (ms ++ es) = (exit? ms).or (exit? es) := List.find?_append

@[simp] theorem said_nil : said [] = [] := rfl

theorem said_cons (x : Moment) (ms : Chronicle) :
    said (x :: ms) = if x.event.isExit then [] else revealed [x.event] ++ said ms := by
  cases hx : x.event.isExit with
  | true => simp [said, hx, revealed]
  | false =>
    simp only [said, List.takeWhile_cons, hx, Bool.not_false, if_true, List.map_cons]
    exact revealed_append [x.event] _

/-- While the scene is not left, all that is said is said in it. -/
theorem said_append_of_exit?_eq_none (h : exit? ms = none) : said (ms ++ es) = said ms ++ said es := by
  induction ms with
  | nil => rfl
  | cons x ms ih =>
    obtain ⟨stays, h⟩ : x.event.isExit = false ∧ exit? ms = none := by
      simpa [exit?] using h
    simp [said_cons, stays, ih h]

/-- What is told after the scene was left does not count. -/
theorem said_append_of_exit?_eq_some {x : Moment} (h : exit? ms = some x) :
    said (ms ++ es) = said ms := by
  induction ms with
  | nil => cases h
  | cons y ms ih =>
    cases hy : y.event.isExit with
    | true => simp [said_cons, hy]
    | false =>
      have h : exit? ms = some x := by simpa [exit?, List.find?_cons, hy] using h
      simp [said_cons, hy, ih h]

/-- Events that neither reveal a line nor leave a scene. -/
theorem of_quiet (quiet : ∀ x ∈ ms, x.event.isExit = false ∧ x.event.line? = none) :
    exit? ms = none ∧ said ms = [] := by
  induction ms with
  | nil => exact ⟨rfl, rfl⟩
  | cons x ms ih =>
    obtain ⟨stays, silent⟩ := quiet x List.mem_cons_self
    obtain ⟨exit, said⟩ := ih fun y hy => quiet y (List.mem_cons_of_mem x hy)
    constructor
    · simpa [exit?, List.find?_cons, stays] using exit
    · simp [said_cons, stays, said, revealed, silent]

/-- What has been told after a moment has been told before or after others were added. -/
theorem suffix_append {x : Moment} {after : Chronicle} (h : x :: after <:+ ms ++ es) :
    (∃ rest, x :: rest <:+ ms ∧ after = rest ++ es) ∨ x :: after <:+ es := by
  induction ms with
  | nil => exact .inr h
  | cons y ms ih =>
    rw [List.cons_append, List.suffix_cons_iff] at h
    rcases h with h | h
    · cases h
      exact .inl ⟨ms, List.suffix_refl _, rfl⟩
    · rcases ih h with ⟨rest, suffix, rfl⟩ | suffix
      · exact .inl ⟨rest, suffix.trans (List.suffix_cons _ _), rfl⟩
      · exact .inr suffix

end Chronicle

/-- What is told of a visit keeps to its timetable. -/
structure Visit.OnTime (v : Visit) (ms : Chronicle) : Prop where
  said : ∀ k line, ms.said[k]? = some line →
    line.speaker = .narrator ∧ v.lines[k]? = some line.text ∧ line.createdAt = v.revealTime k
  exit : ∀ x, ms.exit? = some x → x.time = v.exitTime ∧ ms.said.length = v.lines.length

/-- Everything has been told of a visit that its timetable has up to a time. -/
structure Visit.DoneBy (v : Visit) (target : Millis) (ms : Chronicle) : Prop where
  said : ∀ k < v.lines.length, v.revealTime k ≤ target → k < ms.said.length
  exit : v.exitTime ≤ target → ∃ x, ms.exit? = some x

namespace Stage

/-- The stage waits for what comes next on the timetable of the visit, after as many lines as have
been said. -/
inductive Awaits (s : Stage) (v : Visit) (said : Nat) : Mode → Prop where
  | leadIn {sc : Scene} {due : Millis} (lines : Narrator.spoken (s.linesOf sc) = v.lines)
      (none : said = 0) (time : due = v.restTime 0) : Awaits s v said (.leadIn sc due)
  | typing {sc : Scene} {due : Millis} {before rest : List String} {line : String}
      (lines : v.lines = before ++ line :: rest) (number : before.length = said)
      (time : due = v.revealTime said) : Awaits s v said (.typing sc due line rest)
  | pause {sc : Scene} {due : Millis} {before rest : List String} (lines : v.lines = before ++ rest)
      (number : before.length = said) (time : due = v.restTime said) :
    Awaits s v said (.pause sc due rest)

/-- What the second stage tells beyond the first. -/
def moments (s t : Stage) : Chronicle :=
  (t.events.toList.drop s.events.size).map (⟨t, ·⟩)

variable {s t u : Stage} {v : Visit} {m m' : Mode} {sc : Scene} {j k : Nat} {ms ns : Chronicle}

theorem moments_of_events (es : List Event) (h : t.events.toList = s.events.toList ++ es) :
    s.moments t = es.map (⟨t, ·⟩) := by
  rw [moments, h, List.drop_left']
  exact Array.length_toList

end Stage

namespace Visit

variable {s t u : Stage} {v : Visit} {m m' : Mode} {sc : Scene} {j k : Nat} {ms ns : Chronicle}

/-- From the line with the index `k` on, what is told of the visit keeps to its timetable; and while
the scene is not left, the stage waits for what comes next. -/
structure Follows (v : Visit) (k : Nat) (ms : Chronicle) (s : Stage) (m : Mode) : Prop where
  said : ∀ i line, ms.said[i]? = some line →
    line.speaker = .narrator ∧ v.lines[k + i]? = some line.text ∧
      line.createdAt = v.revealTime (k + i)
  exit : ∀ x, ms.exit? = some x → x.time = v.exitTime ∧ k + ms.said.length = v.lines.length
  goesOn : ms.exit? = none → s.Awaits v (k + ms.said.length) m

theorem Follows.onTime (h : v.Follows 0 ms s m) : v.OnTime ms where
  said i line hl := by simpa using h.said i line hl
  exit x hx := by simpa using h.exit x hx

/-- Nothing was said, and the scene was not left. -/
theorem follows_of_quiet (quiet : ∀ x ∈ ms, x.event.isExit = false ∧ x.event.line? = none)
    (waits : s.Awaits v k m) : v.Follows k ms s m := by
  obtain ⟨exit, said⟩ := Chronicle.of_quiet quiet
  refine ⟨?_, ?_, ?_⟩
  · simp [said]
  · simp [exit]
  · simpa [exit, said] using waits

/-- The next line was said at its time. -/
theorem follows_of_line {x : Moment} (line : Line)
    (quiet : ∀ y ∈ ms, y.event.isExit = false ∧ y.event.line? = none)
    (event : x.event = .lineRevealed line)
    (next : line.speaker = .narrator ∧ v.lines[k]? = some line.text ∧
      line.createdAt = v.revealTime k) (waits : s.Awaits v (k + 1) m) :
    v.Follows k (ms ++ [x]) s m := by
  obtain ⟨none, nothing⟩ := Chronicle.of_quiet quiet
  have stays : Chronicle.exit? (ms ++ [x]) = .none := by
    rw [Chronicle.exit?_append, none]
    simp [Chronicle.exit?, event, Event.isExit]
  have said : Chronicle.said (ms ++ [x]) = [line] := by
    rw [Chronicle.said_append_of_exit?_eq_none none, nothing]
    simp [Chronicle.said_cons, event, Event.isExit, revealed, Event.line?]
  refine ⟨?_, ?_, ?_⟩
  · intro i line' hl
    rw [said] at hl
    obtain ⟨rfl, rfl⟩ : i = 0 ∧ line = line' := by simpa [List.getElem?_singleton] using hl
    exact next
  · simp [stays]
  · simpa [stays, said] using waits

/-- Nothing was left to say, and the scene was left. -/
theorem follows_of_exit (x : Moment) (quiet : ∀ y ∈ ms, y.event.isExit = false ∧ y.event.line? = none)
    (exit : x.event.isExit) (all : k = v.lines.length) (time : x.time = v.exitTime) :
    v.Follows k (ms ++ [x]) s m := by
  obtain ⟨none, nothing⟩ := Chronicle.of_quiet quiet
  have left : Chronicle.exit? (ms ++ [x]) = some x := by
    rw [Chronicle.exit?_append, none]
    simp [Chronicle.exit?, exit]
  have said : Chronicle.said (ms ++ [x]) = [] := by
    rw [Chronicle.said_append_of_exit?_eq_none none, nothing]
    simp [Chronicle.said_cons, exit]
  refine ⟨?_, ?_, ?_⟩
  · simp [said]
  · simpa [left, said] using ⟨time, all⟩
  · simp [left]

/-- What is told while the scene is not left goes on with its visit. -/
theorem Follows.append (h : v.Follows k ms s m)
    (next : ∀ j, s.Awaits v j m → v.Follows j ns t m') : v.Follows k (ms ++ ns) t m' := by
  cases hx : ms.exit? with
  | some x =>
    have left : (ms ++ ns).exit? = some x := by rw [Chronicle.exit?_append, hx]; rfl
    have same : (ms ++ ns).said = ms.said := Chronicle.said_append_of_exit?_eq_some hx
    refine ⟨by rw [same]; exact h.said, by rw [same, left, ← hx]; exact h.exit, ?_⟩
    rw [left]
    exact nofun
  | none =>
    have then' := next _ (h.goesOn hx)
    have exit : (ms ++ ns).exit? = ns.exit? := by rw [Chronicle.exit?_append, hx]; rfl
    have both : (ms ++ ns).said = ms.said ++ ns.said := Chronicle.said_append_of_exit?_eq_none hx
    refine ⟨?_, ?_, ?_⟩
    · intro i line hl
      rw [both, List.getElem?_append] at hl
      split at hl
      · exact h.said i line hl
      · have said := then'.said _ line hl
        rwa [show k + ms.said.length + (i - ms.said.length) = k + i by omega] at said
    · rw [exit, both, List.length_append, ← Nat.add_assoc]
      exact then'.exit
    · rw [exit, both, List.length_append, ← Nat.add_assoc]
      exact then'.goesOn

/-- A stage without a task due up to a time has told all that the timetable has up to it. -/
theorem Follows.doneBy {target : Millis} (h : v.Follows 0 ms s m)
    (quiet : ∀ due, m.due? = some due → target < due) : v.DoneBy target ms := by
  cases hx : ms.exit? with
  | some x =>
    obtain ⟨-, all⟩ := h.exit x hx
    refine ⟨fun k hk _ => by omega, fun _ => ⟨x, hx⟩⟩
  | none =>
    have waits := h.goesOn hx
    rw [Nat.zero_add] at waits
    have late : ∀ {due time : Millis}, m.due? = some due → due ≤ time → ¬time ≤ target := by
      intro due time hdue later reached
      have after : target < due := quiet due hdue
      exact Millis.not_le.2 after (Millis.le_trans later reached)
    cases waits with
    | leadIn lines none time =>
      refine ⟨fun k _ => ?_, ?_⟩
      · exact fun reached => absurd reached (late rfl (time ▸ restTime_le_revealTime (Nat.zero_le k)))
      · exact fun reached => absurd reached (late rfl (time ▸ restTime_le_restTime (Nat.zero_le _)))
    | @typing _ _ before rest line lines number time =>
      have more : ms.said.length < v.lines.length := by simp [lines, ← number]
      refine ⟨fun k _ reached => ?_, ?_⟩
      · refine Nat.lt_of_not_le fun h => ?_
        exact late rfl (time ▸ revealTime_le_revealTime h) reached
      · exact fun reached => absurd reached (late rfl (time ▸ revealTime_le_restTime more))
    | @pause _ _ before rest lines number time =>
      have some : ms.said.length ≤ v.lines.length := by simp [lines, ← number]
      refine ⟨fun k _ reached => ?_, ?_⟩
      · refine Nat.lt_of_not_le fun h => ?_
        exact late rfl (time ▸ restTime_le_revealTime h) reached
      · exact fun reached => absurd reached (late rfl (time ▸ restTime_le_restTime some))

end Visit

end Inquest
