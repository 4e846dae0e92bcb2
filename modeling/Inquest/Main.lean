import Inquest.Lint
import Inquest.Shell.Session

/-!
# The command line

`play` plays a case at the terminal, in real time unless it is fast; `script_linter` checks scripts.
Everything that decides anything is in the library; here files are read, the clock is asked, lines
are waited for and text is written.
-/

namespace Terminal

open Inquest (FileText Millis PathKind Disk Outcome)

/-- More tasks than fall due in any session. -/
def limit : Nat := 1000000000

def readFile (path : String) : IO FileText := do
  try return .ok (← IO.FS.readFile path)
  catch e => return .error (toString e)

def readFiles (paths : List String) : IO (String → FileText) := do
  let files ← paths.mapM fun path => return (path, ← readFile path)
  return fun path => (files.lookup path).getD (.error "not read")

def report (o : Outcome) : IO UInt32 := do
  IO.print o.out
  IO.eprint o.err
  return o.exit

/-- Waits for a line, at most until the time comes for a refresh. -/
partial def await (clock : IO Millis) (line : Task (Except IO.Error String))
    (refresh : Option Millis) : IO (Option String) := do
  match refresh with
  | none => return some (← IO.ofExcept line.get)
  | some due =>
    if ← IO.hasFinished line then return some (← IO.ofExcept line.get)
    else
      let now ← clock
      if due ≤ now then return none
      IO.sleep (UInt32.ofNat (min 10 (due - now).val))
      await clock line refresh

/-- Goes on with a session until the input ends or the player quits. -/
partial def converse (clock : IO Millis) (input : IO.FS.Stream)
    (line : Task (Except IO.Error String)) (s : Inquest.Shell.Session) : IO Unit := do
  let some (s, news) := s.refresh limit (← clock) | throw (IO.userError "the script never rests")
  let (s, prompt) := s.prompt
  IO.print (news ++ prompt)
  (← IO.getStdout).flush
  match ← await clock line s.nextRefresh? with
  | none => converse clock input line s
  | some "" => return
  | some text =>
    let some (s, said, quits) := s.enter limit (← clock) text
      | throw (IO.userError "the script never rests")
    IO.print said
    if quits then return
    converse clock input (← IO.asTask input.getLine) s

def play (args : List String) : IO UInt32 := do
  let paths := match Inquest.Shell.Request.read {} args with
    | .play options => options.paths
    | _ => []
  match Inquest.Shell.begin? (← readFiles paths) args with
  | .error outcome => report outcome
  | .ok (session, text) =>
    IO.print text
    let origin ← IO.monoMsNow
    let clock : IO Millis := do return .ofNat ((← IO.monoMsNow) - origin)
    let input ← IO.getStdin
    converse clock input (← IO.asTask input.getLine) session
    return 0

/-- The files below a folder, each as the components that lead to it. -/
partial def filesBelow (folder : String) : IO (List (List String)) := do
  let mut found := []
  for entry in ← ((← IO.currentDir) / folder).readDir do
    let path := Inquest.Path.join folder entry.fileName
    if ← entry.path.isDir then
      found := found ++ (← filesBelow path).map (entry.fileName :: ·)
    else found := found ++ [[entry.fileName]]
  return found

def lint (args : List String) : IO UInt32 := do
  let target := args.head?.getD ""
  let place := (← IO.currentDir) / target
  let kind ← if target.isEmpty then pure PathKind.missing
    else if ← place.isDir then pure PathKind.folder
    else if ← place.pathExists then pure PathKind.file
    else pure PathKind.missing
  let below ← if kind = .folder then filesBelow target else pure []
  let disk : Disk := { kind := fun _ => kind, below := fun _ => below, read := fun _ => .ok "" }
  let scripts := if kind = .folder then Inquest.Lint.scriptsBelow disk target else [target]
  let read ← readFiles (scripts ++ (Inquest.Lint.answersPath? none args.tail).toList)
  report (Inquest.Lint.run { disk with read } args)

end Terminal

def main (args : List String) : IO UInt32 := do
  match args with
  | "play" :: rest => Terminal.play rest
  | "script_linter" :: rest => Terminal.lint rest
  | _ =>
    IO.eprintln "Usage: inquest (play | script_linter) <arguments>"
    return 1
