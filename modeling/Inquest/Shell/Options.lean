import Inquest.Conversation.Setup
/-!
# Options of the shell

What the arguments of the shell ask for.
-/

namespace Inquest.Shell

structure Options where
  script : Option String := none
  answers : Option String := none
  pacing : Option String := none
  suspect : Option String := none
  /-- Nothing takes time to type. -/
  fast : Bool := false
  deriving DecidableEq, Repr

inductive Request where
  | usage
  | play (options : Options)
  | refuse (argument : String)
  deriving DecidableEq, Repr

/-- Reads arguments from the left on top of the options so far. Of an option that is given twice the
last counts. -/
def Request.read (o : Options) : List String → Request
  | [] => play o
  | "--help" :: _ => usage
  | "-h" :: _ => usage
  | "--fast" :: rest => read { o with fast := true } rest
  | "--script" :: path :: rest => read { o with script := some path } rest
  | "--answers" :: path :: rest => read { o with answers := some path } rest
  | "--pacing" :: path :: rest => read { o with pacing := some path } rest
  | "--suspect" :: name :: rest => read { o with suspect := some name } rest
  | argument :: _ => refuse argument

namespace Options

def paths (o : Options) : List String := o.script.toList ++ o.answers.toList ++ o.pacing.toList

/-- The conversation to set up, given the text of every file. A fast game needs no pacing file. -/
def setup (o : Options) (read : String → FileText) : Setup where
  script := source o.script
  store := source o.answers
  pacing := if o.fast then .given .instant else source o.pacing
  suspect := o.suspect
where
  source {α : Type} (path : Option String) : Source α :=
    match path with
    | some path => .file (read path)
    | none => .standard

end Options

end Inquest.Shell
