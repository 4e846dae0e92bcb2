import Inquest.Proofs.Agenda.Cues
import Inquest.Proofs.Dialogue.Cues
import Inquest.Proofs.Dialogue.Moves
/-!
# Strides of a stage

A stride takes the walk or the hearing on without a word: it enters a scene, asks for a decision or
ends the walk. Every other move on a stage is a cue for the narrator or a reply of the player, with
strides before and after it. So whatever strides, cues and replies do not break holds after all moves.
-/

namespace Inquest

/-- An event that tells neither of the narrator nor of a reply. -/
def Event.isMute : Event → Bool
  | sceneEntered _ | decisionPresented _ | finished => true
  | _ => false

/-- What is told by no mute event is not told by any number of them. -/
theorem filterMap_of_isMute {α : Type} {part : Event → Option α} {es : List Event}
    (entered : ∀ scene, part (.sceneEntered scene) = none)
    (asked : ∀ decision, part (.decisionPresented decision) = none)
    (ended : part .finished = none) (mute : ∀ e ∈ es, e.isMute) : es.filterMap part = [] := by
  refine List.filterMap_eq_nil_iff.2 fun e he => ?_
  have quiet := mute e he
  cases e with
  | sceneEntered scene => exact entered scene
  | decisionPresented decision => exact asked decision
  | finished => exact ended
  | _ => cases quiet

namespace Stage

/-- The second stage comes of the first without a word of the narrator or the player, and without a
verdict that is handed over. -/
structure Strides (s t : Stage) : Prop where
  narrator : t.hearing.narrator = s.hearing.narrator
  ruling : s.hearing.ruling.isSome → t.hearing.ruling.isSome
  reported : t.reported = s.reported
  cues : t.agenda.cues = s.agenda.cues
  events : ∃ es, t.events.toList = s.events.toList ++ es ∧ ∀ e ∈ es, e.isMute

variable {s t u : Stage}

theorem Strides.refl (s : Stage) : s.Strides s :=
  ⟨rfl, id, rfl, rfl, [], by simp, nofun⟩

theorem Strides.trans (h : s.Strides t) (h' : t.Strides u) : s.Strides u where
  narrator := h'.narrator.trans h.narrator
  ruling := h'.ruling ∘ h.ruling
  reported := h'.reported.trans h.reported
  cues := h'.cues.trans h.cues
  events := by
    obtain ⟨es, events, mute⟩ := h.events
    obtain ⟨es', events', mute'⟩ := h'.events
    refine ⟨es ++ es', by rw [events', events, List.append_assoc], fun e he => ?_⟩
    exact (List.mem_append.1 he).elim (mute e) (mute' e)

/-- A change apart from the narrator, the cues and the verdicts, of which no event tells. -/
theorem Strides.silent (narrator : t.hearing.narrator = s.hearing.narrator)
    (ruling : s.hearing.ruling.isSome → t.hearing.ruling.isSome) (reported : t.reported = s.reported)
    (cues : t.agenda.cues = s.agenda.cues) (events : t.events = s.events) : s.Strides t :=
  ⟨narrator, ruling, reported, cues, [], by simp [events], nofun⟩

/-- A change apart from the narrator, the cues and the verdicts, told by mute events. -/
theorem Strides.told (narrator : t.hearing.narrator = s.hearing.narrator)
    (ruling : s.hearing.ruling.isSome → t.hearing.ruling.isSome) (reported : t.reported = s.reported)
    (cues : t.agenda.cues = s.agenda.cues) {es : List Event} (events : t.events = s.events ++ es)
    (mute : ∀ e ∈ es, e.isMute) : s.Strides t :=
  ⟨narrator, ruling, reported, cues, es, by simp [events], mute⟩

theorem strides_enter (s : Stage) (name : String) : s.Strides (s.enter name).1 := by
  unfold enter
  split
  · exact .refl s
  · exact .told rfl id rfl (Agenda.cues_schedule rfl _) rfl (by simp [Event.isMute])

theorem strides_offer (s : Stage) (scene : String) (options : List Choice) :
    s.Strides (s.offer scene options).1 := by
  simp only [offer, Hearing.offer]
  split
  · exact .silent rfl id rfl rfl rfl
  · split
    · exact .told rfl id rfl rfl rfl (by simp [Event.isMute])
    · exact .silent rfl id rfl rfl rfl

theorem strides_promote (s : Stage) : s.Strides s.promote := by
  simp only [promote, Hearing.promote]
  split
  · exact .silent rfl id rfl rfl rfl
  · split
    · exact .silent rfl id rfl rfl rfl
    · exact .told rfl id rfl rfl rfl (by simp [Event.isMute])

theorem strides_leave (s : Stage) : s.Strides s.leave := by
  have left : s.Strides { s with walk.awaiting := none } := .silent rfl id rfl rfl rfl
  unfold leave
  split
  · exact .refl s
  · dsimp only
    split
    · exact left
    · split
      · exact left.trans (strides_enter _ _)
      · exact left.trans (strides_offer _ _ _)
      · exact .told rfl id rfl rfl rfl (by simp [Event.isMute])

/-- A lead-in that comes off the agenda is no cue. -/
theorem strides_of_popDue? {target : Millis} {task : Task} {agenda : Agenda}
    (due : s.agenda.popDue? target = some (task, agenda)) (noCue : task.isCue = false) :
    s.Strides { s with agenda } :=
  .silent rfl id rfl (by rw [Agenda.cues_of_popDue? due, noCue]; rfl) rfl

end Stage

/-- A move that neither plans a cue for the narrator nor gives one that ought to come off the agenda. -/
def Move.isFair : Move → Bool
  | .reveal | .resume => false
  | .schedule _ task => !task.isCue
  | _ => true

/-- What neither strides nor replies break, nor the cues that a host may give at any time. It is said of
the events that the host has taken, and of the stage. -/
structure Lasting (P : List Event → Stage → Prop) : Prop where
  strides {seen s t} : P seen s → s.Strides t → P seen t
  enqueue {seen s} (lines) : P seen s → P seen (s.enqueue lines).1
  speak {seen s} : P seen s → P seen s.speak
  respond {seen s} (text now) : P seen s → P seen (s.respond text now).1
  accept {seen s} (r) : P seen s → P seen (s.accept r)
  takeEvents {seen s} : P seen s → P (seen ++ s.events.toList) { s with events := #[] }

/-- What no move at all breaks: no stride, no cue, no reply, and nothing that is done to the agenda. -/
structure Enduring (P : List Event → Stage → Prop) : Prop where
  strides {seen s t} : P seen s → s.Strides t → P seen t
  cue {seen s} (c : Narrator.Cue) : P seen s → P seen (s.onNarrator (·.heed c))
  accept {seen s} (r) : P seen s → P seen (s.accept r)
  agenda {seen s} (agenda) : P seen s → P seen { s with agenda }
  takeEvents {seen s} : P seen s → P (seen ++ s.events.toList) { s with events := #[] }

variable {P : List Event → Stage → Prop} {seen : List Event} {s : Stage}

namespace Lasting

theorem narrate (h : Lasting P) (hs : P seen s) (name : String) : P seen (s.narrate name) := by
  have awaits : s.Strides { s with walk.awaiting := some name } := .silent rfl id rfl rfl rfl
  unfold Stage.narrate
  split
  · exact hs
  · rename_i sc _
    have queued := h.enqueue (s.linesOf sc) (h.strides hs awaits)
    dsimp only
    split
    · exact h.strides queued (Stage.strides_leave _)
    · exact queued

theorem resolve (h : Lasting P) (hs : P seen s) (value : String) : P seen (s.resolve value).1 := by
  unfold Stage.resolve
  split
  · exact hs
  · exact h.strides (h.accept _ hs) (Stage.strides_enter _ _)

/-- A fair move that takes nothing off the agenda. -/
theorem move (h : Lasting P) (hs : P seen s) {a : Move} (fair : a.isFair)
    (stays : ∀ target, a ≠ .pop target) : P (seen ++ s.handed a) (s.move a) := by
  have untaken : ∀ {t}, P seen t → P (seen ++ []) t := fun ht => by rwa [List.append_nil]
  cases a with
  | start => exact untaken (h.strides hs (s.strides_enter _))
  | narrate name => exact untaken (h.narrate hs name)
  | leave => exact untaken (h.strides hs s.strides_leave)
  | resolve value => exact untaken (h.resolve hs value)
  | offer scene options => exact untaken (h.strides hs (s.strides_offer scene options))
  | promote => exact untaken (h.strides hs s.strides_promote)
  | take | annotate | setScene | finishLoad | settle =>
    exact untaken (h.strides hs (.silent rfl id rfl rfl rfl))
  | rule verdict report => exact untaken (h.strides hs (.silent rfl (fun _ => rfl) rfl rfl rfl))
  | schedule delay task =>
    have cues := Agenda.cues_schedule (a := s.agenda) (by simpa [Move.isFair] using fair) delay
    exact untaken (h.strides hs (.silent rfl id rfl cues rfl))
  | enqueue lines => exact untaken (h.enqueue lines hs)
  | speak => exact untaken (h.speak hs)
  | respond text now => exact untaken (h.respond text now hs)
  | takeEvents => exact h.takeEvents hs
  | pop target => exact absurd rfl (stays target)
  | reveal | resume => cases fair

end Lasting

namespace Enduring

theorem lasting (h : Enduring P) : Lasting P where
  strides := h.strides
  enqueue lines := h.cue (.enqueue lines)
  speak := h.cue .speak
  respond text now := h.cue (.respond text now)
  accept := h.accept
  takeEvents := h.takeEvents

/-- Any move. -/
theorem move (h : Enduring P) (hs : P seen s) (a : Move) : P (seen ++ s.handed a) (s.move a) := by
  have untaken : ∀ {t}, P seen t → P (seen ++ []) t := fun ht => by rwa [List.append_nil]
  cases a with
  | reveal => exact untaken (h.cue (.reveal s.agenda.now) hs)
  | resume => exact untaken (h.cue .resume hs)
  | schedule | pop => exact untaken (h.agenda _ hs)
  | _ => exact h.lasting.move hs rfl nofun

/-- Any moves, one after the other. -/
theorem moves (h : Enduring P) (hs : P seen s) (ms : List Move) :
    P (seen ++ s.taken ms) (s.moves ms) := by
  induction ms generalizing seen s with
  | nil => rwa [Stage.taken_nil, List.append_nil]
  | cons a ms ih =>
    rw [Stage.taken_cons, ← List.append_assoc]
    exact ih (h.move hs a)

end Enduring

end Inquest
