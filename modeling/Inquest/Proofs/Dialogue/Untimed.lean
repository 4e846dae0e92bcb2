import Inquest.Proofs.Dialogue.Reply
import Inquest.Proofs.Pacing
/-!
# Dialogues without their times

A stage can be played without its times: no line takes time, no scene waits, and everything is said
at the start of time. As at most one task is planned at a time, how long a task waits does not
decide which is the next, and the stage without times makes the same turns.
-/

namespace Inquest

def Scene.untimed (sc : Scene) : Scene := { sc with leadIn := 0 }

def Line.untimed (l : Line) : Line := { l with createdAt := 0 }

def Event.untimed : Event → Event
  | lineRevealed line => lineRevealed line.untimed
  | e => e

def Narrator.untimed (n : Narrator) : Narrator :=
  { n with
    pacing := .instant
    history := n.history.map Line.untimed
    numbered := by rw [n.numbered, Array.size_map] }

theorem Narrator.push_untimed (n : Narrator) (line : Line) :
    n.untimed.push line.untimed = (n.push line).untimed := by
  simp [untimed, push, Array.map_push]

def Timer.untimed (t : Timer) : Timer := { t with due := 0 }

theorem Pacing.typingDelay_instant (text : String) : Pacing.instant.typingDelay text = 0 :=
  typingDelay_eq_maxTyping (Millis.le_refl _)

namespace Script

def untimed (s : Script) : Script where
  title := s.title
  suspect := s.suspect
  start := s.start
  scenes := s.scenes.map Scene.untimed
  nodup_names := by
    rw [List.map_map]
    exact s.nodup_names

/-- The script `outline` has the scenes of `s` by their names, but without lead-ins. -/
structure Outlines (outline s : Script) : Prop where
  start : outline.start = s.start
  scene? : ∀ name, outline.scene? name = (s.scene? name).map Scene.untimed

theorem outlines_untimed (s : Script) : s.untimed.Outlines s where
  start := rfl
  scene? name := by
    simp only [Script.scene?, untimed, List.find?_map]
    rfl

variable {outline s : Script}

theorem Outlines.hasScene (ho : outline.Outlines s) (name : String) :
    outline.hasScene name ↔ s.hasScene name := by
  simp only [hasScene_iff, ho.scene?, Option.map_eq_some_iff]
  constructor
  · rintro ⟨-, sc, found, -⟩
    exact ⟨sc, found⟩
  · rintro ⟨sc, found⟩
    exact ⟨sc.untimed, sc, found, rfl⟩

/-- A sound script stays sound without its lead-ins. -/
theorem Outlines.sound (ho : outline.Outlines s) (h : s.Sound) : outline.Sound where
  start := by
    rw [ho.start, ho.hasScene]
    exact h.start
  exits sc hsc := by
    have found : outline.scene? sc.name = some sc := scene?_of_mem hsc
    rw [ho.scene?, Option.map_eq_some_iff] at found
    obtain ⟨sc', found, rfl⟩ := found
    have exit : sc'.exit.Sound s := h.exit found
    exact ⟨fun name hn => (ho.hasScene name).2 (exit.targets name hn), exit.options, exit.values,
      exit.words⟩

end Script

namespace Agenda

def untimed (a : Agenda) : Agenda where
  now := 0
  pending := a.pending.map Timer.untimed
  sorted := List.pairwise_map.2 (List.pairwise_of_forall fun _ _ => Millis.le_refl 0)

/-- The order of the tasks stays as it is where there is only one. -/
theorem untimed_schedule {a : Agenda} (h : a.pending = []) (delay : Millis) (task : Task) :
    (a.schedule delay task).untimed = a.untimed.schedule 0 task := by
  have none : a.untimed.pending = [] := by simp [untimed, h]
  have one : (a.schedule delay task).untimed.pending =
      (a.schedule delay task).pending.map Timer.untimed := rfl
  ext1
  · rfl
  · rw [one, pending_schedule_of_nil h, pending_schedule_of_nil none]
    rfl

end Agenda

def Mode.untimed : Mode → Mode
  | unstarted => unstarted
  | leadIn sc _ => leadIn sc.untimed 0
  | typing sc _ line rest => typing sc.untimed 0 line rest
  | pause sc _ rest => pause sc.untimed 0 rest
  | asking sc number => asking sc.untimed number
  | closed sc => closed sc.untimed

theorem Mode.scene?_untimed (m : Mode) : m.untimed.scene? = m.scene?.map Scene.untimed := by
  cases m <;> rfl

namespace Stage

/-- The stage without its times, on which the script `outline` is played. -/
def untimed (outline : Script) (s : Stage) : Stage :=
  { s with
    walk.script := outline
    hearing.narrator := s.hearing.narrator.untimed
    agenda := s.agenda.untimed
    events := s.events.map Event.untimed }

variable {outline : Script} {s t : Stage} {m m' : Mode} {sc : Scene}

theorem map_events_append (xs : Array Event) (ys : List Event) :
    (xs ++ ys).map Event.untimed = xs.map Event.untimed ++ ys.map Event.untimed := by
  rw [← Array.toList_inj]
  simp

/-- Telling events takes no time. -/
theorem untimed_tell (events : List Event) :
    (s.emit ⟨events, []⟩).untimed outline =
      (s.untimed outline).emit ⟨events.map Event.untimed, []⟩ := by
  simp [untimed, emit, map_events_append]

/-- The first task is planned without a delay. -/
theorem untimed_plan (h : s.agenda.pending = []) (events : List Event) (delay : Millis)
    (task : Task) : (s.emit ⟨events, [(delay, task)]⟩).untimed outline =
      (s.untimed outline).emit ⟨events.map Event.untimed, [(0, task)]⟩ := by
  simp [untimed, emit, map_events_append, Agenda.untimed_schedule h]

theorem untimed_wake (due : Millis) :
    (s.wake due).untimed outline = (s.untimed outline).wake 0 := rfl

theorem typingDelay_untimed (line : String) : (s.untimed outline).typingDelay line = 0 :=
  Pacing.typingDelay_instant line

theorem nextLine_untimed (text : String) :
    (s.untimed outline).nextLine text = (s.nextLine text).untimed := by
  simp [nextLine, untimed, Narrator.untimed, Line.untimed, Agenda.untimed]

/-- A line joins the history without its time. -/
theorem untimed_push (n : Narrator) (line : Line) :
    ({ s with hearing.narrator := n.push line } : Stage).untimed outline =
      { s.untimed outline with hearing.narrator := n.untimed.push line.untimed } := by
  rw [Narrator.push_untimed]
  rfl

/-- What is said does not depend on the time. -/
theorem linesOf_untimed : (s.untimed outline).linesOf sc.untimed = s.linesOf sc := rfl

theorem In.untimed (h : s.In m) (ho : outline.Outlines s.walk.script) :
    (s.untimed outline).In m.untimed where
  control := by
    have control : (s.untimed outline).control =
        { s.control with pending := s.control.pending.map Timer.untimed } := rfl
    rw [control, h.control]
    cases m <;> rfl
  scene := by
    have scene : (s.untimed outline).hearing.scene = s.hearing.scene := rfl
    rw [scene, h.scene, Mode.scene?_untimed, Option.map_map]
    rfl
  known sc' hm := by
    rw [Mode.scene?_untimed, Option.map_eq_some_iff] at hm
    obtain ⟨sc, hs, rfl⟩ := hm
    show outline.scene? sc.name = _
    rw [ho.scene?, h.known sc hs]
    rfl
  exit := by
    cases m <;> exact h.exit

/-- The stage without times enters the scene without its lead-in. -/
theorem untimed_entering (h : s.agenda.pending = []) :
    (s.entering sc).untimed outline = (s.untimed outline).entering sc.untimed :=
  untimed_plan (s := { s with hearing.scene := some sc.name }) h _ _ _

theorem Hushed.untimed (h : s.Hushed m sc t) :
    (s.untimed outline).Hushed m.untimed sc.untimed (t.untimed outline) := by
  cases h with
  | silent lines => exact .silent (by rw [linesOf_untimed]; exact lines)
  | drained =>
    rw [untimed_tell]
    exact .drained

theorem Hushed.pending (h : s.Hushed m sc t) : t.agenda.pending = [] := by
  cases h <;> rfl

theorem Leaves.untimed (h : s.Leaves sc m t) (ho : outline.Outlines s.walk.script)
    (quiet : s.agenda.pending = []) :
    (s.untimed outline).Leaves sc.untimed m.untimed (t.untimed outline) := by
  cases h with
  | proceed exit found =>
    rw [untimed_entering quiet]
    exact .proceed (s := s.untimed outline) exit (by
      show outline.scene? _ = _
      rw [ho.scene?, found]
      rfl)
  | ask exit =>
    rw [untimed_tell]
    exact .ask exit
  | close exit =>
    rw [untimed_tell]
    exact .close exit

/-- The same turn is made without times. -/
theorem Turn.untimed (h : s.Turn m m' t) (ho : outline.Outlines s.walk.script) :
    (s.untimed outline).Turn m.untimed m'.untimed (t.untimed outline) := by
  cases h with
  | @begin sc _ line rest lines =>
    rw [← linesOf_untimed ] at lines
    have turn : (s.untimed outline).Turn (.leadIn sc.untimed 0) _ _ := .begin lines
    rw [typingDelay_untimed] at turn
    rw [untimed_plan rfl]
    exact turn
  | @reveal sc due line rest =>
    have turn : (s.untimed outline).Turn (.typing sc.untimed 0 line rest) _ _ := .reveal
    rw [← untimed_wake due, nextLine_untimed] at turn
    rw [untimed_plan rfl, untimed_push (s := s.wake due)]
    exact turn
  | @goOn sc _ line rest =>
    have turn : (s.untimed outline).Turn (.pause sc.untimed 0 (line :: rest)) _ _ := .goOn
    rw [typingDelay_untimed] at turn
    rw [untimed_plan rfl]
    exact turn
  | leave hushed leaves =>
    exact .leave hushed.untimed
      (leaves.untimed (by rw [hushed.script]; exact ho) hushed.pending)

theorem answered_untimed (r : Reply) :
    (s.answered r).untimed outline = (s.untimed outline).answered r := by
  have line : (s.untimed outline).replyLine r = (s.replyLine r).untimed := by
    simp [replyLine, untimed, Narrator.untimed, Line.untimed, Agenda.untimed]
  rw [answered, answered, untimed_tell, line, untimed_push (s := { s with hearing.shown := none })]
  rfl

theorem deliver_untimed (v : Verdict) :
    (s.deliver v).untimed outline = (s.untimed outline).deliver v := by
  have ruling : (s.untimed outline).hearing.ruling = s.hearing.ruling := rfl
  rw [deliver, deliver, ruling]
  split
  · rfl
  · rw [untimed_tell]
    rfl

/-- What the player says is accepted in the same way without times. -/
theorem accept_untimed (r : Reply) :
    (s.accept r).untimed outline = (s.untimed outline).accept r := by
  rw [accept_eq, accept_eq, ← answered_untimed]
  cases r.verdict with
  | none => rfl
  | some v => exact deliver_untimed v

end Stage

end Inquest
