import Inquest.Chat
import Inquest.Proofs.Conversation.Outbox
/-!
# What a page is told

A page gets the events of its conversation from the calls that move the conversation forward; its other calls
leave events waiting, and so do those that are refused. No event is lost on the way and none comes twice: what
the calls have given, with what still waits, is what the conversation has told.
-/

namespace Inquest

inductive ChatQuery where
  | status
  | nextDueIn
  | revealed (claim : ClaimId)
  | sheet
  | history
  | decision
  | accuracy
  | isTyping
  | isFinished

inductive ChatCall where
  | start
  | advance (delay : UInt32)
  | runUntilIdle
  | choose (value : String)
  | annotate (claim : ClaimId) (word : String)
  | click (claim : ClaimId) (word : Option String)
  | loadAnswers (answers : String)
  | query (query : ChatQuery)

inductive ChatAnswer where
  | events (batch : Array Event)
  | colour (name : String)
  | click (reply : ClickReply)
  | status (word : String)
  | due (delay : Int)
  | truth (row : Option RevealedRow)
  | mistakes (rows : Option (List SheetRow))
  | lines (history : Array Line)
  | decision (decision : Option Decision)
  | counts (accuracy : Option Tally)
  | flag (value : Bool)

abbrev ChatLog := List (ChatCall × Except ChatError ChatAnswer)

/-- The calls on a conversation that a call on a chat stands for. A word that is no category stands for none,
and looking something up is no call on the conversation. -/
def ChatCall.facade : ChatCall → List Call
  | start => [.start]
  | advance delay => [.advance (.ofNat delay.toNat)]
  | runUntilIdle => [.runUntilIdle]
  | choose value => [.choose value]
  | annotate claim word => (Category.parse word).toList.map fun category => .annotate claim category
  | click claim none => [.click claim none]
  | click claim (some word) =>
    (Category.parse word).toList.map fun category => .click claim (some category)
  | loadAnswers answers => [.finishLoad (Book.parse answers)]
  | query _ => []

namespace Chat

def look (c : Chat) : ChatQuery → ChatAnswer
  | .status => .status c.status
  | .nextDueIn => .due c.nextDueIn
  | .revealed claim => .truth (c.revealed? claim)
  | .sheet => .mistakes c.sheet?
  | .history => .lines c.conversation.history
  | .decision => .decision c.conversation.decision?
  | .accuracy => .counts c.conversation.accuracy?
  | .isTyping => .flag c.conversation.isTyping
  | .isFinished => .flag c.conversation.isFinished

/-- Makes a call. A call that moves the clock returns only if at most `limit` tasks come due. -/
def perform? (limit : Nat) (c : Chat) : ChatCall → Option (Chat × Except ChatError ChatAnswer)
  | .start => some (c.start.1, c.start.2.map .events)
  | .advance delay => (c.advance? limit delay).map fun r => (r.1, .ok (.events r.2))
  | .runUntilIdle => some (c.runUntilIdle.1, .ok (.events c.runUntilIdle.2))
  | .choose value => some ((c.choose value).1, (c.choose value).2.map .events)
  | .annotate claim word => some ((c.annotate claim word).1, (c.annotate claim word).2.map .colour)
  | .click claim word => some ((c.click claim word).1, (c.click claim word).2.map .click)
  | .loadAnswers answers => some ((c.loadAnswers answers).1, .ok (.status (c.loadAnswers answers).2))
  | .query query => some (c, .ok (c.look query))

/-- Makes calls one after the other. There is nothing if one of them does not return. -/
def play? (limit : Nat) : Chat → List ChatCall → Option (Chat × ChatLog)
  | c, [] => some (c, [])
  | c, call :: calls => do
    let (c', reply) ← c.perform? limit call
    let (c'', log) ← c'.play? limit calls
    return (c'', (call, reply) :: log)

/-- The events that the page gets from a call; from one that is refused it gets none. -/
def batch : Except ChatError ChatAnswer → List Event
  | .ok (.events batch) => batch.toList
  | _ => []

/-- All events that the page has got, in the order of its calls. -/
def delivered (log : ChatLog) : List Event := log.flatMap fun e => batch e.2

/-- The events that wait until a call hands them over. -/
def pending (c : Chat) : List Event := c.conversation.stage.events.toList

/-- Hands the events over after a call on the conversation that may have been refused. -/
def handOver (refusal : ChoiceError → ChatError) (r : Conversation × Except ChoiceError Unit) :
    Chat × Except ChatError (Array Event) :=
  match r.2 with
  | .error e => (⟨r.1⟩, .error (refusal e))
  | .ok () => (⟨r.1.takeEvents.1⟩, .ok r.1.takeEvents.2)

variable {c c' : Chat} {limit : Nat} {call : ChatCall} {calls : List ChatCall}

theorem start_eq : c.start = handOver .start c.conversation.start := rfl

theorem choose_eq (value : String) :
    c.choose value = handOver .choice (c.conversation.choose value) := rfl

/-- What is handed over, with what waits afterwards, is what has waited. -/
theorem preceded_handOver (refusal : ChoiceError → ChatError)
    (r : Conversation × Except ChoiceError Unit) :
    (handOver refusal r).1.conversation.preceded (batch ((handOver refusal r).2.map .events)) =
      r.1 := by
  obtain ⟨conversation, result⟩ := r
  cases result with
  | error e => exact Conversation.preceded_nil
  | ok => exact Conversation.preceded_takeEvents

theorem takeEvents_notMem_facade : .takeEvents ∉ call.facade := by
  cases call with
  | click claim word => cases word <;> simp [ChatCall.facade]
  | _ => simp [ChatCall.facade]

/-- A call hands over some of the events that the conversation has told by then and leaves the others waiting,
and it returns exactly if the calls do that it stands for. -/
theorem play?_facade (limit : Nat) (c : Chat) (call : ChatCall) :
    (c.conversation.play? limit call.facade).map (·.1) =
      (c.perform? limit call).map fun r => r.1.conversation.preceded (batch r.2) := by
  cases call with
  | start =>
    rw [perform?, start_eq, Option.map_some, preceded_handOver]
    rfl
  | choose value =>
    rw [perform?, choose_eq, Option.map_some, preceded_handOver]
    rfl
  | advance delay =>
    have ran : c.conversation.play? limit (ChatCall.advance delay).facade =
        (c.conversation.advance? limit (.ofNat delay.toNat)).map
          fun d => (d, [(.advance (.ofNat delay.toNat), .done)]) := by
      simp only [ChatCall.facade, Conversation.play?, Conversation.perform?]
      cases c.conversation.advance? limit (.ofNat delay.toNat) <;> rfl
    rw [ran, perform?, advance?]
    cases c.conversation.advance? limit (.ofNat delay.toNat) with
    | none => rfl
    | some d => exact congrArg some Conversation.preceded_takeEvents.symm
  | runUntilIdle => exact congrArg some Conversation.preceded_takeEvents.symm
  | annotate claim word =>
    rw [perform?, annotate, category, ChatCall.facade]
    cases Category.parse word <;> exact congrArg some Conversation.preceded_nil.symm
  | click claim word =>
    cases word with
    | none => exact congrArg some Conversation.preceded_nil.symm
    | some word =>
      have highlighter : (some word).mapM category = (category word).map some := rfl
      rw [perform?, click, highlighter, category, ChatCall.facade]
      cases Category.parse word <;> exact congrArg some Conversation.preceded_nil.symm
  | loadAnswers answers => exact congrArg some Conversation.preceded_nil.symm
  | query query =>
    have none : batch (.ok (c.look query)) = [] := by cases query <;> rfl
    rw [perform?, Option.map_some, none, Conversation.preceded_nil]
    rfl

theorem takeEvents_notMem_flatMap_facade : .takeEvents ∉ calls.flatMap ChatCall.facade := by
  rw [List.mem_flatMap]
  rintro ⟨call, -, mem⟩
  exact takeEvents_notMem_facade mem

/-- What the calls of a page have handed over, with what waits in the end, is what the conversation has told
under the calls that they stand for; and the one run returns exactly if the other does. -/
theorem play?_flatMap_facade (limit : Nat) (c : Chat) (calls : List ChatCall) :
    (c.conversation.play? limit (calls.flatMap ChatCall.facade)).map (·.1) =
      (c.play? limit calls).map fun r => r.1.conversation.preceded (delivered r.2) := by
  induction calls generalizing c with
  | nil => exact congrArg some Conversation.preceded_nil.symm
  | cons call calls ih =>
    have first := c.play?_facade limit call
    rw [List.flatMap_cons, Conversation.map_play?_append, first, play?]
    cases c.perform? limit call with
    | none => rfl
    | some r =>
      -- Undrained, the rest of the run has what the first call handed over in front.
      have rest : ((r.1.conversation.preceded (batch r.2)).play? limit
          (calls.flatMap ChatCall.facade)).map (·.1) =
            ((r.1.play? limit calls).map fun q => q.1.conversation.preceded (delivered q.2)).map
              (·.preceded (batch r.2)) := by
        rw [Conversation.play?_preceded takeEvents_notMem_flatMap_facade, ← ih, Option.map_map,
          Option.map_map]
        rfl
      rw [Option.map_some, Option.bind_some, rest]
      cases played : r.1.play? limit calls with
      | none => simp [played]
      | some q => simp [played, delivered]

/-- A call that is refused changes nothing. -/
theorem eq_of_perform?_error {e : ChatError} (o : c.conversation.Orderly)
    (h : c.perform? limit call = some (c', .error e)) : c' = c := by
  cases call with
  | start =>
    rw [perform?, start_eq, handOver, Conversation.start_of_orderly o] at h
    cases h
  | choose value =>
    rw [perform?, choose_eq, handOver] at h
    cases refused : (c.conversation.choose value).2 with
    | ok => rw [refused] at h; cases h
    | error cause =>
      rw [refused, Conversation.choose_of_error o refused] at h
      cases h
      rfl
  | advance delay =>
    obtain ⟨r, -, same⟩ := Option.map_eq_some_iff.1 h
    cases same
  | annotate claim word =>
    rw [perform?, annotate] at h
    cases known : category word with
    | ok => rw [known] at h; cases h
    | error cause =>
      rw [known] at h
      cases h
      rfl
  | click claim word =>
    rw [perform?, click] at h
    cases known : word.mapM category with
    | ok => rw [known] at h; cases h
    | error cause =>
      rw [known] at h
      cases h
      rfl
  | runUntilIdle | loadAnswers | query => cases h

def setup (script : Script) (store : AnswerStore) (fast : Bool) : Setup where
  script := .given script
  pacing := .given (if fast then .instant else .standard)
  store := .given store

variable {read : Except ScriptError Script} {store : AnswerStore} {fast : Bool}

/-- A chat is opened as the conversation that is set up with its parts, if its script could be read. -/
theorem openWith_eq_ok_iff : openWith read store fast = .ok c ↔
    ∃ script, read = .ok script ∧ (setup script store fast).build = .ok c.conversation := by
  constructor
  · intro opened
    obtain ⟨script, known, rest⟩ := bind_eq_ok_iff.1 opened
    obtain ⟨d, built, ⟨⟩⟩ := bind_eq_ok_iff.1 rest
    exact ⟨script, mapError_eq_ok_iff.1 known, mapError_eq_ok_iff.1 built⟩
  · rintro ⟨script, rfl, built⟩
    exact bind_eq_ok_iff.2 ⟨script, rfl, bind_eq_ok_iff.2 ⟨_, mapError_eq_ok_iff.2 built, rfl⟩⟩

/-- A page gets every event exactly once. Whatever it calls, the events that it has got, with those that still
wait, are the events of a conversation of the same parts that makes the same moves and whose events nobody
takes; the calls return exactly if those moves do. A call that is refused changes nothing. -/
theorem delivered_of_calls (opened : openWith read store fast = .ok c) :
    ∃ script c₀, read = .ok script ∧ (setup script store fast).build = .ok c₀ ∧ ∀ limit calls,
      ((c.play? limit calls).isSome ↔ (c₀.play? limit (calls.flatMap ChatCall.facade)).isSome) ∧
      ∀ c' log, c.play? limit calls = some (c', log) →
        (∃ d log', c₀.play? limit (calls.flatMap ChatCall.facade) = some (d, log') ∧
          delivered log ++ c'.pending = d.stage.events.toList ∧
          c'.conversation.takeEvents.1 = d.takeEvents.1) ∧
        ∀ call c'' e, c'.perform? limit call = some (c'', .error e) → c'' = c' := by
  obtain ⟨script, known, built⟩ := openWith_eq_ok_iff.1 opened
  refine ⟨script, c.conversation, known, built, fun limit calls => ?_⟩
  have same := c.play?_flatMap_facade limit calls
  constructor
  · rw [← Option.isSome_map (f := fun r : Chat × ChatLog => r.1.conversation.preceded (delivered r.2)),
      ← same, Option.isSome_map]
  · intro c' log played
    rw [played, Option.map_some, Option.map_eq_some_iff] at same
    obtain ⟨⟨d, log'⟩, ran, rfl⟩ := same
    have orderly := Conversation.orderly_of_reaches built ⟨limit, _, log', ran⟩
    refine ⟨⟨_, log', ran, Conversation.events_preceded.symm, rfl⟩, ?_⟩
    intro call c'' e refused
    exact eq_of_perform?_error orderly.of_preceded refused

end Chat

namespace Gated

/-- A page with the case while the answers are loading. -/
def chat : Chat := ⟨openingWith .instant .loading⟩

/-- What the page calls: it is refused a word that is no answer, and one that is no category. -/
def visit : List ChatCall :=
  [.start, .runUntilIdle, .choose "maybe", .annotate 3 "blue", .choose "guilty", .advance 99, .runUntilIdle]

/-- The page gets all fifteen events of the case, in spite of the calls that are refused. -/
theorem delivered_of_visit :
    ∃ c log d log', Chat.openWith (.ok script) .loading true = .ok chat ∧
      chat.play? 10 visit = some (c, log) ∧
      log.map (·.2.isOk) = [true, true, false, false, true, true, true] ∧
      (openingWith .instant .loading).play? 10 (visit.flatMap ChatCall.facade) = some (d, log') ∧
      (Chat.delivered log).length = 15 ∧
      Chat.delivered log ++ c.pending = d.stage.events.toList ∧
      ∀ call c' e, c.perform? 10 call = some (c', .error e) → c' = c := by
  have opened : Chat.openWith (.ok script) .loading true = .ok chat :=
    Chat.openWith_eq_ok_iff.2 ⟨script, rfl, build_setupWith .instant .loading⟩
  have visited : (chat.play? 10 visit).map (fun r => (r.2.map (·.2.isOk), (Chat.delivered r.2).length)) =
      some ([true, true, false, false, true, true, true], 15) := by decide +kernel
  obtain ⟨⟨c, log⟩, played, counts⟩ := Option.map_eq_some_iff.1 visited
  obtain ⟨replies, length⟩ : _ ∧ _ := by simpa only [Prod.mk.injEq] using counts
  obtain ⟨_, c₀, known, built, delivers⟩ := Chat.delivered_of_calls opened
  cases known
  obtain rfl := Except.ok.inj ((build_setupWith .instant .loading).symm.trans built)
  obtain ⟨⟨d, log', ran, told, -⟩, unchanged⟩ := (delivers 10 visit).2 c log played
  exact ⟨c, log, d, log', opened, played, replies, ran, length, told, unchanged⟩

end Gated

end Inquest
