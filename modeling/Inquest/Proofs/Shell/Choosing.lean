import Inquest.Proofs.Conversation.Choice
import Inquest.Proofs.Dialogue.Docket
import Inquest.Shell.Session
import Mathlib.Data.Nat.Digits.Defs
/-!
# Choosing at the shell

A player answers a decision with a token. A numeral picks the option that was shown with its number, and any
other token the option of that value; so an option whose value is a numeral can be hidden by another. A token
that picks nothing changes nothing.
-/

namespace Inquest

namespace Text

def decimal (digits : List Char) : Nat :=
  Nat.ofDigits 10 (digits.reverse.map fun c => c.toNat - '0'.toNat)

/-- A text is a numeral for a number within the bound: digits, at least one, perhaps with a plus sign in
front. -/
def Numeral (bound : Nat) (s : String) (n : Nat) : Prop :=
  ∃ digits : List Char, (s.toList = digits ∨ s.toList = '+' :: digits) ∧ digits ≠ [] ∧
    (∀ c ∈ digits, c.isDigit) ∧ decimal digits = n ∧ n ≤ bound

variable {bound n : Nat} {s : String} {digits : List Char}

theorem decimal_eq_foldl (digits : List Char) :
    decimal digits = digits.foldl (fun n c => 10 * n + (c.toNat - '0'.toNat)) 0 := by
  rw [decimal, Nat.ofDigits_eq_foldr, List.foldr_map, List.foldr_reverse]
  congr 1
  funext n c
  exact Nat.add_comm _ _

/-- The digits of a text that may have a plus sign in front. -/
def unsigned : List Char → List Char
  | '+' :: cs => cs
  | cs => cs

theorem unsigned_or_signed (cs : List Char) : cs = unsigned cs ∨ cs = '+' :: unsigned cs := by
  unfold unsigned
  split
  · exact .inr rfl
  · exact .inl rfl

/-- A plus sign is no digit, so there is one way to take digits from a text. -/
theorem unsigned_eq {cs : List Char} (h : cs = digits ∨ cs = '+' :: digits)
    (all : ∀ c ∈ digits, c.isDigit) : unsigned cs = digits := by
  rcases h with rfl | rfl
  · unfold unsigned
    split
    · have sign : Char.isDigit '+' := all '+' List.mem_cons_self
      cases sign
    · rfl
  · rfl

theorem natural?_eq (bound : Nat) (s : String) : natural? bound s =
    let digits := unsigned s.toList
    if digits.isEmpty || !digits.all Char.isDigit then none
    else if decimal digits ≤ bound then some (decimal digits) else none := by
  simp only [decimal_eq_foldl]
  rfl

/-- A text is read as a number exactly if it is a numeral for it. -/
theorem natural?_eq_some_iff : natural? bound s = some n ↔ Numeral bound s n := by
  rw [natural?_eq]
  simp only [Option.ite_none_left_eq_some, Option.ite_none_right_eq_some, Option.some.injEq,
    Bool.or_eq_true, not_or, List.isEmpty_iff, Bool.not_eq_true', Bool.not_eq_false, List.all_eq_true]
  constructor
  · rintro ⟨⟨some_digit, all⟩, within, rfl⟩
    exact ⟨_, unsigned_or_signed _, some_digit, all, rfl, within⟩
  · rintro ⟨digits, shape, some_digit, all, rfl, within⟩
    rw [unsigned_eq shape all]
    exact ⟨⟨some_digit, all⟩, within, rfl⟩

end Text

/-- A turn that leads to a gate presents its decision last. -/
theorem Stage.Turn.presents {s t : Stage} {m : Mode} {sc : Scene} {number : Nat}
    (h : s.Turn m (.asking sc number) t) : ∃ es, t.events.toList =
      s.events.toList ++ (es ++ [.decisionPresented (Mode.decision sc number)]) := by
  cases h with
  | leave hushed leaves =>
    cases leaves with
    | ask exit =>
      cases hushed with
      | silent lines => exact ⟨[], by simp⟩
      | drained => exact ⟨[.queueDrained], by simp⟩

namespace Conversation

/-- A conversation in which the decision on screen is the last that was presented. -/
structure Announced (t : Transcript) (c : Conversation) : Prop extends Orderly c where
  last : ∀ d, c.decision? = some d → (presented (t.told c)).getLast? = some d

variable {c c' : Conversation} {t t' : Transcript}

theorem Announced.aside (h : c.Announced t) (a : c.Aside c') (told : t'.told c' = t.told c) :
    c'.Announced t' where
  toOrderly := h.toOrderly.aside a
  last d shown := by
    have same : c'.decision? = c.decision? := congrArg Control.shown a.control
    rw [told]
    exact h.last d (same ▸ shown)

/-- While a scene waits for its lead-in, no decision is on screen. -/
theorem Orderly.announced_of_leadIn (o : c.Orderly) {sc : Scene} {due : Millis}
    (h : c.In (.leadIn sc due)) : c.Announced t where
  toOrderly := o
  last d shown := by
    have none : c.decision? = none := congrArg Control.shown h.stage.control
    rw [none] at shown
    cases shown

/-- Whatever the host does, the decision on screen is the last that was presented. -/
theorem kept_announced : Kept fun t c => c.Announced t where
  start {t c} h := by
    have orderly : c.start.1.Orderly := kept_orderly.start (t := t) h.toOrderly
    obtain ⟨m, hm⟩ := h.mode
    by_cases fresh : m = .unstarted
    · subst fresh
      obtain ⟨sc, -, -, waits⟩ := start_of_unstarted h.sound hm
      exact orderly.announced_of_leadIn waits
    · rw [start_of_ne hm fresh]
      exact h
  task {t c _ c'} h hs := by
    have orderly : c'.Orderly := h.toOrderly.of_step? hs
    obtain ⟨m, hm⟩ := h.mode
    obtain ⟨m', turn, hm'⟩ := turn_of_step? h.sound hm hs
    refine ⟨orderly, fun d shown => ?_⟩
    rcases decision?_of_in hm' with none | ⟨sc, number, rfl⟩
    · rw [none] at shown
      cases shown
    · obtain ⟨es, events⟩ := turn.presents
      rw [decision?_of_asking hm'] at shown
      cases shown
      rw [Transcript.told_of_events events rfl, presented_append, presented_append,
        ← List.append_assoc]
      exact List.getLast?_concat
  settle h _ := h.aside (aside_settle _ _) rfl
  chosen {t c value} h hv := by
    obtain ⟨sc, number, o, sc', -, -, -, -, waits⟩ := choose_of_ok h.toOrderly hv
    have orderly := kept_orderly.chosen (t := t) h.toOrderly hv
    exact orderly.announced_of_leadIn waits
  refused h hv := by
    rw [choose_of_error h.toOrderly hv]
    exact h
  annotate claim category h := h.aside (aside_annotate _ claim category) rfl
  finishLoad result h := h.aside (aside_finishLoad _ result) rfl
  takeEvents h := h.aside (aside_takeEvents _) (Transcript.told_takeEvents _ _)

theorem announced_of_build {s : Setup} (h : s.build = .ok c) : c.Announced {} where
  toOrderly := orderly_of_build h
  last d shown := by
    obtain ⟨script, pacing, -, rfl⟩ := Setup.build_eq_ok h
    cases shown

end Conversation

namespace Shell

open Text

/-- A token stands for an option of a gate. -/
inductive StandsFor (options : List GateOption) (token : String) (o : GateOption) : Prop where
  /-- It is the number with which the option is shown. -/
  | number {n : Nat} (numeral : Numeral maxOption token (n + 1)) (there : options[n]? = some o)
  /-- It is the value of the option, and not a number. -/
  | value (other : ∀ n, ¬Numeral maxOption token n) (mem : o ∈ options) (same : o.value = token)

/-- What the shell says to a token that picks nothing. -/
def refusal (token : String) : String :=
  "No decision is waiting, or '" ++ token ++ "' is not an option."

variable {c : Conversation} {d : Decision} {sc : Scene} {number : Nat} {token value : String}
  {o : GateOption}

/-- A token picks the values of the options that it stands for. -/
theorem pickedValue?_eq_some_iff : pickedValue? (Mode.decision sc number) token = some value ↔
    ∃ o, StandsFor sc.exit.options token o ∧ o.value = value := by
  cases read : natural? maxOption token with
  | some n =>
    have numeral : Numeral maxOption token n := natural?_eq_some_iff.1 read
    have only : ∀ k, Numeral maxOption token k → k = n := by
      intro k numeral'
      rw [natural?_eq_some_iff.2 numeral'] at read
      exact Option.some.inj read
    cases n with
    | zero =>
      simp only [pickedValue?, read]
      constructor
      · exact nofun
      · rintro ⟨o, numeral' | ⟨other, -, -⟩, -⟩
        · cases only _ numeral'
        · exact absurd numeral (other 0)
    | succ n =>
      simp only [pickedValue?, read, Mode.decision, List.getElem?_map, Option.map_map,
        Option.map_eq_some_iff]
      constructor
      · rintro ⟨o, there, same⟩
        exact ⟨o, .number numeral there, same⟩
      · rintro ⟨o, ⟨numeral', there⟩ | ⟨other, -, -⟩, same⟩
        · cases only _ numeral'
          exact ⟨o, there, same⟩
        · exact absurd numeral (other (n + 1))
  | none =>
    have other : ∀ n, ¬Numeral maxOption token n := by
      intro n numeral
      rw [natural?_eq_some_iff.2 numeral] at read
      cases read
    simp only [pickedValue?, read, Decision.option?, Mode.decision, List.find?_map, Option.map_map,
      Option.map_eq_some_iff]
    constructor
    · rintro ⟨o, found, same⟩
      have word : o.value = token := by simpa using List.find?_some found
      exact ⟨o, .value other (List.mem_of_find?_eq_some found) word, same⟩
    · rintro ⟨o, ⟨numeral, -⟩ | ⟨-, mem, word⟩, same⟩
      · exact absurd numeral (other _)
      · have offered : (sc.exit.options.find? (·.value = token)).isSome := by
          rw [List.find?_isSome]
          exact ⟨o, mem, by simpa using word⟩
        obtain ⟨o', found⟩ := Option.isSome_iff_exists.1 offered
        have word' : o'.value = token := by simpa using List.find?_some found
        exact ⟨o', found, word'.trans (word.symm.trans same)⟩

/-- Each option is shown on a line of its own, with its number. -/
theorem eventLines_decision (sc : Scene) (number : Nat) :
    ∃ lines, eventLines (.decisionPresented (Mode.decision sc number)) = some lines ∧
      lines.length = sc.exit.options.length ∧
      ∀ n o, sc.exit.options[n]? = some o →
        lines[n]? = some ("  [" ++ Nat.repr (n + 1) ++ "] " ++ o.label) := by
  refine ⟨_, rfl, by simp [Mode.decision], fun n o there => ?_⟩
  simp [Mode.decision, there]

theorem obey_choose (c : Conversation) (token : String) :
    obey c (.choose (some token)) = choose c token := by
  rfl

theorem choose_of_none (h : c.decision?.bind (pickedValue? · token) = none) :
    choose c token = (c, [refusal token]) := by
  unfold choose refusal
  rw [h]

theorem choose_of_some (h : c.decision?.bind (pickedValue? · token) = some value) :
    (choose c token).1 = (c.choose value).1 := by
  unfold choose
  rw [h]
  dsimp only
  split <;> rfl

/-- Whatever its host does, the decision on screen of a conversation that was set up is the last that was
presented, and the shell has shown each of its options with a number. A token then picks the option that it
stands for, by its number or else by its value; one that stands for none changes nothing. -/
theorem picked_of_token {s : Setup} {c₀ : Conversation} {limit : Nat} {calls : List Call} {log : Log}
    (hb : s.build = .ok c₀) (h : c₀.play? limit calls = some (c, log)) (hd : c.decision? = some d)
    (token : String) :
    ∃ sc lines, c.script.scene? d.scene = some sc ∧
      (presented ((Transcript.ofLog log).told c)).getLast? = some d ∧
      eventLines (.decisionPresented d) = some lines ∧ lines.length = sc.exit.options.length ∧
      (∀ n o, sc.exit.options[n]? = some o →
        lines[n]? = some ("  [" ++ Nat.repr (n + 1) ++ "] " ++ o.label)) ∧
      (∀ o, StandsFor sc.exit.options token o →
        ∃ next, c.Picked o next (obey c (.choose (some token))).1) ∧
      ((¬∃ o, StandsFor sc.exit.options token o) →
        obey c (.choose (some token)) = (c, [refusal token])) := by
  have announced : c.Announced (Transcript.ofLog log) :=
    Conversation.kept_announced.play (Conversation.announced_of_build hb) h
  obtain ⟨m, hm⟩ := announced.mode
  rcases Conversation.decision?_of_in hm with none | ⟨sc, number, rfl⟩
  · rw [none] at hd
    cases hd
  obtain rfl : Mode.decision sc number = d :=
    Option.some.inj ((Conversation.decision?_of_asking hm).symm.trans hd)
  have known : c.script.scene? sc.name = some sc := hm.stage.known sc rfl
  obtain ⟨lines, shown, length, numbered⟩ := eventLines_decision sc number
  refine ⟨sc, lines, known, announced.last _ hd, shown, length, numbered, ?_, ?_⟩
  · intro o stands
    have mem : o ∈ sc.exit.options := by
      cases stands with
      | number _ there => exact List.mem_of_getElem? there
      | value _ mem _ => exact mem
    have picks : c.decision?.bind (pickedValue? · token) = some o.value := by
      rw [hd]
      exact pickedValue?_eq_some_iff.2 ⟨o, stands, rfl⟩
    have found := (announced.sound.exit known).find?_value mem
    rw [obey_choose, choose_of_some picks]
    exact (Conversation.picked_of_find?_eq_some announced.sound hm found).2
  · intro nothing
    rw [obey_choose]
    apply choose_of_none
    rw [hd]
    refine Option.eq_none_iff_forall_ne_some.2 fun value picks => nothing ?_
    obtain ⟨o, stands, -⟩ := pickedValue?_eq_some_iff.1 picks
    exact ⟨o, stands⟩

end Shell

/-! A fork at which the value of each way is the number of the other. -/

namespace Signpost

open Shell

def left : GateOption := ⟨⟨"Left", "2"⟩, "meadow"⟩

def right : GateOption := ⟨⟨"Right", "1"⟩, "mill"⟩

def fork : Scene where
  name := "fork"
  leadIn := 0
  narration := .lines [⟨[.literal "Which way?"]⟩]
  exit := .gate .choice [left, right, ⟨⟨"Wait", "wait"⟩, "fork"⟩]

/-- Where a way ends. -/
def stop (name : String) : Scene := ⟨name, 0, .lines [], .close⟩

def script : Script where
  title := "Fork"
  suspect := "Flora Jasmine"
  start := "fork"
  scenes := [fork, stop "meadow", stop "mill"]
  nodup_names := by decide

theorem sound_script : script.Sound where
  start := by decide
  exits := by
    intro sc mem
    simp only [script, List.mem_cons, List.not_mem_nil, or_false] at mem
    rcases mem with rfl | rfl | rfl
    · exact ⟨by decide, by rintro kind options ⟨⟩; simp, by decide, by rintro options ⟨⟩⟩
    · exact Exit.sound_of_ne_gate (by decide) (by rintro kind options ⟨⟩)
    · exact Exit.sound_of_ne_gate (by decide) (by rintro kind options ⟨⟩)

def setup : Setup := { script := .given script, pacing := .given .instant }

def opening : Conversation := { stage := .opening script .instant .reference none }

theorem build_setup : setup.build = .ok opening := Setup.build_of_given sound_script rfl rfl

/-- A number counts before a value that reads the same, and beyond the options it picks nothing. -/
theorem picked_of_crossed :
    ∃ c log d, setup.build = .ok opening ∧
      opening.play? 10 [.start, .runUntilIdle] = some (c, log) ∧ c.decision? = some d ∧
      (∃ next, c.Picked right next (obey c (.choose (some "2"))).1) ∧
      (∃ next, c.Picked left next (obey c (.choose (some "+01"))).1) ∧
      obey c (.choose (some "4")) = (c, [refusal "4"]) := by
  obtain ⟨c, log, played⟩ : ∃ c log, opening.play? 10 [.start, .runUntilIdle] = some (c, log) :=
    ⟨_, _, rfl⟩
  have asks : c.decision? = some (Mode.decision fork 1) := by
    cases played
    rfl
  have known : ∀ sc, c.script.scene? "fork" = some sc → sc = fork := by
    rintro sc found
    cases played
    cases found
    rfl
  have reads : ∀ token n, Text.natural? maxOption token = some n → Text.Numeral maxOption token n :=
    fun _ _ => Text.natural?_eq_some_iff.1
  refine ⟨c, log, _, build_setup, played, asks, ?_, ?_, ?_⟩
  · obtain ⟨sc, -, found, -, -, -, -, picks, -⟩ := picked_of_token build_setup played asks "2"
    obtain rfl := known sc found
    exact picks right (.number (reads "2" 2 (by decide)) rfl)
  · obtain ⟨sc, -, found, -, -, -, -, picks, -⟩ := picked_of_token build_setup played asks "+01"
    obtain rfl := known sc found
    exact picks left (.number (reads "+01" 1 (by decide)) rfl)
  · obtain ⟨sc, -, found, -, -, -, -, -, refused⟩ := picked_of_token build_setup played asks "4"
    obtain rfl := known sc found
    refine refused ?_
    rintro ⟨o, ⟨numeral, there⟩ | ⟨other, -, -⟩⟩
    · have four : Text.natural? maxOption "4" = some 4 := by decide
      cases Option.some.inj (four.symm.trans (Text.natural?_eq_some_iff.2 numeral))
      cases there
    · exact other 4 (reads "4" 4 (by decide))

end Signpost

end Inquest
