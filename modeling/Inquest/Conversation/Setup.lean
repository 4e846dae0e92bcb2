import Inquest.Conversation.Basic
import Inquest.Reference.Story
import Inquest.Script.File
/-!
# Setting a conversation up

A conversation is made from a script, a pacing, an answer store and a suspect. Each part is given as
a value, or read from a file, or left to its default. The script is checked, and then the pacing is
read; answers that do not load do no harm.
-/

namespace Inquest

inductive Source (α : Type) where
  | standard
  | file (text : FileText)
  | given (value : α)

structure Setup where
  script : Source Script := .standard
  pacing : Source Pacing := .standard
  store : Source AnswerStore := .standard
  /-- The suspect to grade, if it is not the one of the script. -/
  suspect : Option String := none

inductive SetupError where
  | script (cause : ScriptError)
  | pacing (cause : PacingError)
  deriving DecidableEq, Repr

def SetupError.message : SetupError → String
  | script cause => "script error: " ++ cause.message
  | pacing cause => "pacing error: " ++ cause.message

namespace Setup

def loadScript (s : Setup) : Except ScriptError Script := do
  let script ← match s.script with
    | .standard => Reference.script
    | .file text => Script.ofFile text
    | .given script => .ok script
  script.check
  return script

def loadPacing (s : Setup) : Except PacingError Pacing :=
  match s.pacing with
  | .standard => .ok .standard
  | .file text => Pacing.ofFile text
  | .given pacing => .ok pacing

def loadStore (s : Setup) : AnswerStore :=
  match s.store with
  | .standard => .reference
  | .file text => .ofFile text
  | .given store => store

end Setup

def Stage.opening (script : Script) (pacing : Pacing) (store : AnswerStore)
    (suspect : Option String) : Stage where
  walk := { script, store, suspect := suspect.getD script.suspect }
  hearing := .opening pacing

def Setup.build (s : Setup) : Except SetupError Conversation := do
  let script ← s.loadScript.mapError .script
  let pacing ← s.loadPacing.mapError .pacing
  return { stage := .opening script pacing s.loadStore s.suspect }

end Inquest
