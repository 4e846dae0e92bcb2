import Inquest.Conversation.Basic
import Inquest.Text.Case
import Inquest.Text.Lines
/-!
# Commands of the shell

What the player can type, and what each command does and says.
-/

namespace Inquest.Shell

inductive Command where
  | nothing
  | quit
  | help
  | choose (token : Option String)
  | mark (mark : Option (ClaimId × Category))
  | click (claim : Option ClaimId) (highlighter : Option Category)
  | marks
  | grade
  | sheet
  | history
  | unknown (word : String)
  deriving DecidableEq, Repr

def claim? (s : String) : Option ClaimId := (Text.natural? 4294967295 s).map UInt32.ofNat

namespace Command

/-- Reads a line. The first word says what to do, in any mixture of cases. -/
def read (line : String) : Command :=
  match Text.words line with
  | [] => nothing
  | word :: args =>
    let claim := args[0]?.bind claim?
    let category := args[1]?.bind Category.parse
    match Text.lowercase word with
    | "quit" | "exit" | "q" => quit
    | "help" | "h" | "?" => help
    | "choose" | "c" => choose args[0]?
    | "mark" | "m" => mark (claim.bind fun claim => category.map fun category => (claim, category))
    | "click" => click claim category
    | "marks" => marks
    | "grade" => grade
    | "sheet" => sheet
    | "history" => history
    | word => unknown word

end Command

def maxOption : Nat := 18446744073709551615

/-- The value that a token picks: a number picks the option shown with it, and any other token the
option of that value. -/
def pickedValue? (d : Decision) (token : String) : Option String :=
  match Text.natural? maxOption token with
  | some 0 => none
  | some (n + 1) => d.options[n]?.map (·.value)
  | none => (d.option? token).map (·.value)

def claimColumn (claim : ClaimId) : String := Text.rightAlign 3 (Nat.repr claim.toNat)

def lineText (l : Line) : String :=
  match l.speaker with
  | .narrator => "Holmes: " ++ l.text
  | .responder => "You:    " ++ l.text

def helpLines : List String := [
  "Commands:",
  "  choose <n|value>          Answer the decision on screen",
  "  mark <claim> <category>   Toggle a mark: green/red/purple",
  "                            (or supported/misleading/fabricated)",
  "  click <claim> [category]  Click a sentence, optionally with a highlighter",
  "  marks                     List current marks",
  "  grade                     Grade the current marks",
  "  sheet                     Show the corrected sheet (after the verdict)",
  "  history                   Reprint the conversation",
  "  help                      Show this help",
  "  quit                      Exit"]

/-- Says which claim has what mark now. -/
def markedText (claim : ClaimId) (mark : Option Category) (describe : Category → String) : String :=
  let claim := "Claim " ++ Nat.repr claim.toNat
  match mark with
  | some category => claim ++ " marked " ++ describe category ++ "."
  | none => claim ++ " cleared."

def marksLines (m : Marks) : List String :=
  if m.isEmpty then ["No marks yet."]
  else m.entries.map fun e => "  " ++ claimColumn e.1 ++ "  " ++ e.2.colour

def gradeLines (r : Option Report) : List String :=
  match r with
  | none => ["Answer key not available yet."]
  | some r => [Nat.repr r.summary.correct.toNat ++ " correct, "
      ++ Nat.repr r.summary.incorrect.toNat ++ " incorrect, "
      ++ Nat.repr r.summary.total.toNat ++ " total"]

def sheetLines (r : Option Report) : List String :=
  match r with
  | none => ["The corrected sheet is available after the verdict."]
  | some r =>
    if r.mistakes.isEmpty then ["No mistakes."]
    else r.mistakes.map fun g =>
      "  claim " ++ claimColumn g.claim ++ ": you said " ++ (g.marked.map (·.label)).getD "unmarked"
        ++ ", it is " ++ g.expected.label

/-- Verdicts on their way to the host. -/
def reportLines (verdicts : List Verdict) : List String :=
  verdicts.map fun v => "  (verdict sent to the case board: " ++ v.word ++ ")"

/-- Applies what a token picks; says nothing unless it was refused or the verdict was sent. -/
def choose (c : Conversation) (token : String) : Conversation × List String :=
  match c.decision?.bind (pickedValue? · token) with
  | none => (c, ["No decision is waiting, or '" ++ token ++ "' is not an option."])
  | some value =>
    let (after, result) := c.choose value
    let sent := reportLines (after.reported.drop c.reported.length)
    match result with
    | .ok () => (after, sent)
    | .error e => (after, sent ++ ["ERROR: " ++ e.message])

def obey (c : Conversation) : Command → Conversation × List String
  | .nothing => (c, [])
  | .quit => (c, ["Goodbye."])
  | .help => (c, helpLines)
  | .choose none => (c, ["Usage: choose <n|value>"])
  | .choose (some token) => choose c token
  | .mark none => (c, ["Usage: mark <claim> <category> (green, red or purple)"])
  | .mark (some (claim, category)) =>
    let (c, mark) := c.annotate claim category
    (c, [markedText claim mark fun category => category.colour ++ " (" ++ category.label ++ ")"])
  | .click none _ => (c, ["Usage: click <claim> [category]"])
  | .click (some claim) highlighter =>
    let (c, outcome) := c.click claim highlighter
    match outcome with
    | .openSource source => (c, ["Opening " ++ source])
    | .marked mark => (c, [markedText claim mark Category.colour])
    | .ignored => (c, ["Pick a highlighter first."])
  | .marks => (c, marksLines c.marks)
  | .grade => (c, gradeLines c.grade?)
  | .sheet => (c, sheetLines c.sheet?)
  | .history => (c, c.history.toList.map lineText)
  | .unknown word => (c, ["Unknown command '" ++ word ++ "'. Type 'help' for commands."])

end Inquest.Shell
