import Inquest.Conversation.Setup
/-!
# Chats

The conversation of a page that owns the real clock. Every call that moves the conversation forward
gives the events it brought about; every failure is a text for the page to throw.
-/

namespace Inquest

/-- The whole number with 53 significant bits that is nearest to `n`, which is what a page that counts
in double precision gets of it. A tie goes to the number whose last bit is zero. -/
def nearestBinary64 (n : Nat) : Nat :=
  let unit := Nat.pow 2 (n.log2 + 1 - 53)
  let (below, rest) := (n / unit, n % unit)
  let up := unit < 2 * rest || (unit == 2 * rest && below % 2 == 1)
  (if up then below + 1 else below) * unit

structure Chat where
  conversation : Conversation

/-- The chat could not be opened, or a call was refused. -/
inductive ChatError where
  | script (cause : ScriptError)
  | build (cause : SetupError)
  | start (cause : ChoiceError)
  | choice (cause : ChoiceError)
  | unknownCategory (word : String)
  deriving DecidableEq, Repr

def ChatError.message : ChatError → String
  | script cause => "Script parse error: " ++ cause.message
  | build cause => "Conversation build error: " ++ cause.message
  | start cause => "Start error: " ++ cause.message
  | choice cause => "Choice error: " ++ cause.message
  | unknownCategory word => "Unknown category: " ++ word

/-- What a click on a claim shows on the page; a mark is named by its colour. -/
inductive ClickReply where
  | openSource (source : String)
  | marked (colour : Option String)
  | ignored
  deriving DecidableEq, Repr

def ClickReply.ofClick : ClaimClick → ClickReply
  | .openSource source => openSource source
  | .marked mark => marked (mark.map Category.colour)
  | .ignored => ignored

/-- The truth about a claim, as the page shows it. -/
structure RevealedRow where
  claim : ClaimId
  colour : String
  label : String
  source : Option String
  deriving DecidableEq, Repr

def RevealedRow.ofEntry (e : AnswerEntry) : RevealedRow :=
  ⟨e.claim, e.category.colour, e.category.label, e.source⟩

/-- A mistake, as the page shows it. -/
structure SheetRow where
  claim : ClaimId
  expected : String
  marked : Option String
  deriving DecidableEq, Repr

def SheetRow.ofGrade (g : ClaimGrade) : SheetRow :=
  ⟨g.claim, g.expected.colour, g.marked.map Category.colour⟩

namespace Chat

/-- Opens a chat with a script, if one was read. If it is fast, nothing takes time to type. -/
def openWith (script : Except ScriptError Script) (store : AnswerStore) (fast : Bool) :
    Except ChatError Chat := do
  let script ← script.mapError .script
  let pacing := if fast then Pacing.instant else .standard
  let setup : Setup := { script := .given script, pacing := .given pacing, store := .given store }
  return ⟨← setup.build.mapError .build⟩

def reference (fast : Bool) : Except ChatError Chat := openWith Reference.script .reference fast

/-- A case from the text of its script, with the answers still to load. -/
def ofScript (script : String) (fast : Bool) : Except ChatError Chat :=
  openWith (Script.parse script) .loading fast

/-- The state of the answers: loading, ready or fallback. -/
def status (c : Chat) : String := c.conversation.store.status.map Char.toLower

/-- Completes the load of the answers; gives the state that they are in then. -/
def loadAnswers (c : Chat) (answers : String) : Chat × String :=
  let c : Chat := ⟨c.conversation.finishLoad (Book.parse answers)⟩
  (c, c.status)

def takeEvents (c : Chat) : Chat × Array Event :=
  let (conversation, events) := c.conversation.takeEvents
  (⟨conversation⟩, events)

def start (c : Chat) : Chat × Except ChatError (Array Event) :=
  let (conversation, result) := c.conversation.start
  match result with
  | .error e => (⟨conversation⟩, .error (.start e))
  | .ok () =>
    let (c, events) := takeEvents ⟨conversation⟩
    (c, .ok events)

/-- Moves the clock forward; at most `limit` tasks may fall due. -/
def advance? (limit : Nat) (c : Chat) (delay : UInt32) : Option (Chat × Array Event) :=
  (c.conversation.advance? limit (.ofNat delay.toNat)).map fun conversation =>
    takeEvents ⟨conversation⟩

def runUntilIdle (c : Chat) : Chat × Array Event := takeEvents ⟨c.conversation.runUntilIdle⟩

/-- How long it is to the next task, as the page counts, and -1 if there is none. -/
def nextDueIn (c : Chat) : Int :=
  match c.conversation.nextDue? with
  | some due => nearestBinary64 (due - c.conversation.now).val
  | none => -1

def choose (c : Chat) (value : String) : Chat × Except ChatError (Array Event) :=
  let (conversation, result) := c.conversation.choose value
  match result with
  | .error e => (⟨conversation⟩, .error (.choice e))
  | .ok () =>
    let (c, events) := takeEvents ⟨conversation⟩
    (c, .ok events)

def category (word : String) : Except ChatError Category :=
  match Category.parse word with
  | some category => .ok category
  | none => .error (.unknownCategory word)

/-- One highlighter click on a claim; gives the colour of the claim's mark afterwards, or nothing
for a claim without one. -/
def annotate (c : Chat) (claim : ClaimId) (word : String) : Chat × Except ChatError String :=
  match category word with
  | .error e => (c, .error e)
  | .ok category =>
    let (conversation, mark) := c.conversation.annotate claim category
    (⟨conversation⟩, .ok ((mark.map Category.colour).getD ""))

/-- A click on a claim with a highlighter, or with none. -/
def click (c : Chat) (claim : ClaimId) (word : Option String) : Chat × Except ChatError ClickReply :=
  match word.mapM category with
  | .error e => (c, .error e)
  | .ok highlighter =>
    let (conversation, outcome) := c.conversation.click claim highlighter
    (⟨conversation⟩, .ok (.ofClick outcome))

def revealed? (c : Chat) (claim : ClaimId) : Option RevealedRow :=
  (c.conversation.revealed? claim).map .ofEntry

/-- The mistakes that the verdict locked in. -/
def sheet? (c : Chat) : Option (List SheetRow) :=
  c.conversation.sheet?.map fun report => report.mistakes.map .ofGrade

end Chat

end Inquest
