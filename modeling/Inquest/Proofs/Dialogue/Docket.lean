import Inquest.Dialogue.Hearing
import Inquest.Proofs.Dialogue.Cues
/-!
# The docket of a hearing

Whoever holds a hearing may offer decisions, have them shown and take them off the screen as they
like, while its narrator follows whatever cues it is given. The decisions that are accepted make up a
docket, numbered from 1: first those that have been shown, in order, and then the one held back.
-/

namespace Inquest

def Event.presented? : Event → Option Decision
  | decisionPresented d => some d
  | _ => none

def presented (es : List Event) : List Decision := es.filterMap Event.presented?

@[simp] theorem presented_append (es fs : List Event) :
    presented (es ++ fs) = presented es ++ presented fs := by
  simp [presented]

theorem mem_presented_iff {es : List Event} {d : Decision} :
    d ∈ presented es ↔ .decisionPresented d ∈ es := by
  rw [presented, List.mem_filterMap]
  constructor
  · rintro ⟨e, he, hd⟩
    cases e with
    | decisionPresented d' =>
      cases hd
      exact he
    | _ => cases hd
  · intro h
    exact ⟨_, h, rfl⟩

/-- No cue presents a decision. -/
theorem Narrator.presented_heed (n : Narrator) (c : Cue) : presented (n.heed c).2.events = [] := by
  refine List.filterMap_eq_nil_iff.2 fun e mem => ?_
  have speech := (n.heeds_heed c).isSpeech mem
  cases e with
  | decisionPresented d => cases speech
  | _ => rfl

namespace Hearing

inductive Motion where
  | offer (scene : String) (options : List Choice)
  | promote
  | take
  | cue (cue : Narrator.Cue)

def entertain (h : Hearing) : Motion → Hearing × Effects
  | .offer scene options => ((h.offer scene options).1, (h.offer scene options).2.1)
  | .promote => h.promote
  | .take => (h.take.1, .none)
  | .cue cue => ({ h with narrator := (h.narrator.heed cue).1 }, (h.narrator.heed cue).2)

def entertainAll (h : Hearing) (ms : List Motion) : Hearing :=
  ms.foldl (fun h m => (h.entertain m).1) h

def told (h : Hearing) : List Motion → List Event
  | [] => []
  | m :: ms => (h.entertain m).2.events ++ (h.entertain m).1.told ms

/-- The decision that a motion puts on the docket: what is offered while no decision is held back,
under the number that the offer is given. -/
def accepted? (h : Hearing) : Motion → Option Decision
  | .offer scene options =>
    if h.held.isNone then some ⟨(h.offer scene options).2.2, scene, options⟩ else none
  | _ => none

/-- All that motions put on the docket, in order. -/
def docket (h : Hearing) : List Motion → List Decision
  | [] => []
  | m :: ms => (h.accepted? m).toList ++ (h.entertain m).1.docket ms

@[simp] theorem entertainAll_nil (h : Hearing) : h.entertainAll [] = h := rfl
@[simp] theorem entertainAll_cons (h : Hearing) (m : Motion) (ms : List Motion) :
    h.entertainAll (m :: ms) = (h.entertain m).1.entertainAll ms := rfl
@[simp] theorem told_nil (h : Hearing) : h.told [] = [] := rfl
@[simp] theorem told_cons (h : Hearing) (m : Motion) (ms : List Motion) :
    h.told (m :: ms) = (h.entertain m).2.events ++ (h.entertain m).1.told ms := rfl
@[simp] theorem docket_nil (h : Hearing) : h.docket [] = [] := rfl
@[simp] theorem docket_cons (h : Hearing) (m : Motion) (ms : List Motion) :
    h.docket (m :: ms) = (h.accepted? m).toList ++ (h.entertain m).1.docket ms := rfl

def Room (h : Hearing) : Prop := h.narrator.isIdle ∧ h.shown = none

/-- What comes of a motion: the hearing after it, the decisions that it shows, and those that it puts
on the docket. -/
inductive Outcome (h : Hearing) : Motion → Hearing → List Decision → List Decision → Prop where
  | ignored {scene : String} {options : List Choice} (held : h.held.isSome) :
    Outcome h (.offer scene options) h [] []
  | shown {scene : String} {options : List Choice} (held : h.held = none) (room : h.Room) :
    Outcome h (.offer scene options)
      { h with
        shown := some ⟨h.nextDecision, scene, options⟩
        nextDecision := h.nextDecision + 1 }
      [⟨h.nextDecision, scene, options⟩] [⟨h.nextDecision, scene, options⟩]
  | held {scene : String} {options : List Choice} (held : h.held = none) (full : ¬h.Room) :
    Outcome h (.offer scene options)
      { h with
        held := some ⟨h.nextDecision, scene, options⟩
        nextDecision := h.nextDecision + 1 }
      [] [⟨h.nextDecision, scene, options⟩]
  | promoted {d : Decision} (held : h.held = some d) (room : h.Room) :
    Outcome h .promote { h with shown := some d, held := none } [d] []
  | waiting : Outcome h .promote h [] []
  | taken : Outcome h .take { h with shown := none } [] []
  | cue (c : Narrator.Cue) :
    Outcome h (.cue c) { h with narrator := (h.narrator.heed c).1 } [] []

variable {h h' : Hearing} {m : Motion} {ms : List Motion} {ds as : List Decision} {d : Decision}

theorem offer_of_held (held : h.held = some d) (scene : String) (options : List Choice) :
    h.offer scene options = (h, .none, d.id) := by
  simp [offer, held]

theorem offer_of_room (held : h.held = none) (room : h.Room) (scene : String)
    (options : List Choice) : h.offer scene options =
      ({ h with
          shown := some ⟨h.nextDecision, scene, options⟩
          nextDecision := h.nextDecision + 1 },
        ⟨[.decisionPresented ⟨h.nextDecision, scene, options⟩], []⟩, h.nextDecision) := by
  simp [offer, held, room.1, room.2]

theorem offer_of_full (held : h.held = none) (full : ¬h.Room) (scene : String)
    (options : List Choice) : h.offer scene options =
      ({ h with
          held := some ⟨h.nextDecision, scene, options⟩
          nextDecision := h.nextDecision + 1 }, .none, h.nextDecision) := by
  have busy : ¬(h.narrator.isIdle ∧ h.shown = none) := full
  simp [offer, held, busy]

theorem promote_of_room (held : h.held = some d) (room : h.Room) :
    h.promote = ({ h with shown := some d, held := none }, ⟨[.decisionPresented d], []⟩) := by
  simp [promote, held, room.1, room.2]

theorem promote_of_full (full : ¬h.Room) : h.promote = (h, .none) := by
  have busy : h.shown.isSome ∨ h.narrator.isIdle = false := by
    rw [Option.isSome_iff_ne_none, or_iff_not_imp_right]
    intro idle
    rw [Bool.not_eq_false] at idle
    exact fun clear => full ⟨idle, clear⟩
  simp [promote, busy]

theorem outcome_offer (h : Hearing) (scene : String) (options : List Choice) :
    h.Outcome (.offer scene options) (h.offer scene options).1
      (presented (h.offer scene options).2.1.events)
      (h.accepted? (.offer scene options)).toList := by
  cases held : h.held with
  | some d =>
    have refused : h.accepted? (.offer scene options) = none := by simp [accepted?, held]
    rw [refused, offer_of_held held]
    exact .ignored (by rw [held]; rfl)
  | none =>
    have granted : h.accepted? (.offer scene options) =
        some ⟨(h.offer scene options).2.2, scene, options⟩ := by simp [accepted?, held]
    by_cases room : h.Room
    · rw [granted, offer_of_room held room]
      exact .shown held room
    · rw [granted, offer_of_full held room]
      exact .held held room

theorem outcome_promote (h : Hearing) :
    h.Outcome .promote h.promote.1 (presented h.promote.2.events) [] := by
  by_cases room : h.Room
  · cases held : h.held with
    | none =>
      have idle : h.promote = (h, .none) := by simp [promote, held]
      rw [idle]
      exact .waiting
    | some d =>
      rw [promote_of_room held room]
      exact .promoted held room
  · rw [promote_of_full room]
    exact .waiting

theorem outcome_entertain (h : Hearing) (m : Motion) :
    h.Outcome m (h.entertain m).1 (presented (h.entertain m).2.events) (h.accepted? m).toList := by
  cases m with
  | offer scene options => exact h.outcome_offer scene options
  | promote => exact h.outcome_promote
  | take => exact .taken
  | cue c =>
    rw [entertain, Narrator.presented_heed]
    exact .cue c

/-- What is shown comes off the docket in the order of the docket. -/
theorem Outcome.docket (o : h.Outcome m h' ds as) : ds ++ h'.held.toList = h.held.toList ++ as := by
  cases o with
  | ignored | waiting | taken | cue => simp
  | shown held | held held => simp [held]
  | promoted held => simp [held]

/-- What goes on the docket has the next number. -/
theorem Outcome.numbered (o : h.Outcome m h' ds as) :
    h'.nextDecision = h.nextDecision + as.length ∧
      as.map (·.id) = List.range' h.nextDecision as.length := by
  cases o <;> simp

/-- The decision on screen is the one just shown, or it was there before and has not been taken. -/
theorem Outcome.shown_iff (o : h.Outcome m h' ds as) :
    h'.shown = some d ↔ d ∈ ds ∨ h.shown = some d ∧ m ≠ .take := by
  cases o with
  | ignored | held | waiting | cue => simp
  | shown held room | promoted held room => simp [room.2, eq_comm]
  | taken => simp

/-- The decision on screen is the last of those just shown, if there is one. -/
theorem Outcome.last (o : h.Outcome m h' ds as) (shown : h'.shown = some d) :
    ds.getLast?.or h.shown = some d := by
  cases o with
  | ignored | held | waiting | cue => exact shown
  | shown | promoted => exact shown
  | taken => cases shown

/-- A decision is shown only where there is room for it. -/
theorem Outcome.room (o : h.Outcome m h' ds as) (mem : d ∈ ds) : h.Room := by
  cases o with
  | shown held room | promoted held room => exact room
  | ignored | held | waiting | taken | cue => cases mem

/-- All that goes on the docket is shown in its order, or it is still held back. -/
theorem presented_told_append_held (h : Hearing) (ms : List Motion) :
    presented (h.told ms) ++ (h.entertainAll ms).held.toList = h.held.toList ++ h.docket ms := by
  induction ms generalizing h with
  | nil => simp [presented]
  | cons m ms ih =>
    have first := (h.outcome_entertain m).docket
    rw [told_cons, presented_append, List.append_assoc, entertainAll_cons, ih, ← List.append_assoc,
      first, docket_cons, List.append_assoc]

/-- The docket is numbered from the next number on. -/
theorem numbered_docket (h : Hearing) (ms : List Motion) :
    (h.entertainAll ms).nextDecision = h.nextDecision + (h.docket ms).length ∧
      (h.docket ms).map (·.id) = List.range' h.nextDecision (h.docket ms).length := by
  induction ms generalizing h with
  | nil => simp
  | cons m ms ih =>
    obtain ⟨next, ids⟩ := (h.outcome_entertain m).numbered
    obtain ⟨next', ids'⟩ := ih (h.entertain m).1
    constructor
    · rw [entertainAll_cons, next', next, docket_cons, List.length_append, Nat.add_assoc]
    · rw [docket_cons, List.map_append, ids, ids', next, List.length_append, List.range'_append_1]

/-- The decision on screen was shown in the course of the motions, or was there before them, and has
not been taken since. -/
theorem shown_entertainAll_iff (h : Hearing) (ms : List Motion) :
    (h.entertainAll ms).shown = some d ↔
      (∃ before m after, ms = before ++ m :: after ∧
        .decisionPresented d ∈ ((h.entertainAll before).entertain m).2.events ∧
        .take ∉ after) ∨
      h.shown = some d ∧ .take ∉ ms := by
  induction ms generalizing h with
  | nil => simp
  | cons m ms ih =>
    rw [entertainAll_cons, ih, (h.outcome_entertain m).shown_iff, mem_presented_iff]
    constructor
    · rintro (⟨before, m', after, rfl, now, kept⟩ | ⟨now | ⟨shown, left⟩, kept⟩)
      · exact .inl ⟨m :: before, m', after, rfl, now, kept⟩
      · exact .inl ⟨[], m, ms, rfl, now, kept⟩
      · exact .inr ⟨shown, by simp [kept, left.symm]⟩
    · rintro (⟨before, m', after, split, now, kept⟩ | ⟨shown, kept⟩)
      · cases before with
        | nil =>
          cases split
          exact .inr ⟨.inl now, kept⟩
        | cons first before =>
          cases split
          exact .inl ⟨before, m', after, rfl, now, kept⟩
      · rw [List.mem_cons, not_or] at kept
        exact .inr ⟨.inr ⟨shown, Ne.symm kept.1⟩, kept.2⟩

/-- The decision on screen is the last that the motions have shown, if they have shown one. -/
theorem getLast?_presented_told (h : Hearing) (ms : List Motion)
    (shown : (h.entertainAll ms).shown = some d) :
    (presented (h.told ms)).getLast?.or h.shown = some d := by
  induction ms generalizing h with
  | nil => exact shown
  | cons m ms ih =>
    have later := ih (h.entertain m).1 shown
    rw [told_cons, presented_append, List.getLast?_append, Option.or_assoc]
    cases last : (presented ((h.entertain m).1.told ms)).getLast? with
    | some d' =>
      rw [last] at later
      exact later
    | none =>
      rw [last] at later
      exact (h.outcome_entertain m).last later

/-- Whatever is moved at a new hearing, in whatever order, the decisions shown are numbered 1, 2 and so
on in the order in which they are shown. With the one held back behind them they are the docket: what
was offered while none was held back, with its number, scene and options. The next number is one more
than the docket has; while a decision is held back, an offer changes nothing and gives the number of
that one. The decision on screen is the last that was shown, and is there until it is taken. A decision
is shown only while the narrator is idle and no other is on screen. -/
theorem docket_of_motions (pacing : Pacing) (ms : List Motion) :
    let h := (opening pacing).entertainAll ms
    let ds := presented ((opening pacing).told ms)
    ds ++ h.held.toList = (opening pacing).docket ms ∧
    ds.map (·.id) = List.range' 1 ds.length ∧
    (h.held = none → h.nextDecision = ds.length + 1) ∧
    (∀ d, h.held = some d → d.id = ds.length + 1 ∧ h.nextDecision = ds.length + 2 ∧
      ∀ scene options, h.offer scene options = (h, .none, d.id)) ∧
    (∀ d, h.shown = some d ↔ ∃ before m after, ms = before ++ m :: after ∧
      .decisionPresented d ∈ (((opening pacing).entertainAll before).entertain m).2.events ∧
      .take ∉ after) ∧
    (∀ d, h.shown = some d → ds.getLast? = some d) ∧
    ∀ m d, .decisionPresented d ∈ (h.entertain m).2.events → h.narrator.isIdle ∧ h.shown = none := by
  intro h ds
  have docket : ds ++ h.held.toList = (opening pacing).docket ms :=
    (opening pacing).presented_told_append_held ms
  obtain ⟨count, ids⟩ := (opening pacing).numbered_docket ms
  rw [← docket] at count ids
  have next : h.nextDecision = 1 + (ds ++ h.held.toList).length := count
  have split : ds.map (·.id) ++ h.held.toList.map (·.id) =
      List.range' 1 ds.length ++ List.range' (1 + ds.length) h.held.toList.length := by
    rw [List.range'_append_1, ← List.length_append, ← List.map_append]
    exact ids
  obtain ⟨shown, last⟩ := List.append_inj split (by simp)
  have clear : (opening pacing).shown = none := rfl
  refine ⟨docket, shown, ?_, ?_, ?_, ?_, ?_⟩
  · intro empty
    simp only [empty, Option.toList_none, List.append_nil] at next
    omega
  · intro d held
    simp only [held, Option.toList_some, List.length_append, List.length_singleton] at next
    have number : d.id = 1 + ds.length := by simpa [held] using last
    exact ⟨by omega, by omega, offer_of_held held⟩
  · intro d
    have taken := (opening pacing).shown_entertainAll_iff (d := d) ms
    simpa [clear] using taken
  · intro d here
    have final := (opening pacing).getLast?_presented_told ms here
    simpa [clear] using final
  · intro m d mem
    exact (h.outcome_entertain m).room (mem_presented_iff.2 mem)

/-- Offers that come while the narrator speaks, and while a decision is held back or on screen. -/
def interruption : List Motion :=
  [.cue (.enqueue ["Well?"]), .offer "first" [⟨"Guilty", "guilty"⟩], .offer "lost" [], .promote,
    .cue (.reveal 0), .cue .resume, .promote, .offer "second" []]

/-- The first is shown when the narrator is idle, the second is held back, and nothing more can be
offered. -/
theorem docket_of_interruption :
    let h := (opening .instant).entertainAll interruption
    h.shown = some ⟨1, "first", [⟨"Guilty", "guilty"⟩]⟩ ∧ h.held = some ⟨2, "second", []⟩ ∧ h.nextDecision = 3 ∧
      presented ((opening .instant).told interruption) = [⟨1, "first", [⟨"Guilty", "guilty"⟩]⟩] ∧
      ∀ scene options, h.offer scene options = (h, .none, 2) := by
  intro h
  have state : h.shown = some ⟨1, "first", [⟨"Guilty", "guilty"⟩]⟩ ∧ h.held = some ⟨2, "second", []⟩ ∧
      presented ((opening .instant).told interruption) = [⟨1, "first", [⟨"Guilty", "guilty"⟩]⟩] := by decide +kernel
  obtain ⟨shown, held, presented⟩ := state
  obtain ⟨-, -, -, waits, -⟩ := docket_of_motions .instant interruption
  obtain ⟨-, next, refused⟩ := waits ⟨2, "second", []⟩ held
  rw [presented] at next
  exact ⟨shown, held, next, presented, refused⟩

end Hearing

end Inquest
