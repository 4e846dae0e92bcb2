import Inquest.Disk
import Inquest.Script.File
import Inquest.Text.Lines
import Inquest.Answers.Book
/-!
# The script linter

Reads scripts and says what is wrong with them. With an answer book it also says which suspects the
book does not have. It fails if there is any error; warnings do no harm.
-/

namespace Inquest.Lint

def usage : String := "Usage: script_linter <script.ron | dir> [--answers <answer_key.ron>]\n"

/-- The path of the answer book among the arguments after the first; the last one counts. -/
def answersPath? (found : Option String) : List String → Option String
  | [] => found
  | "--answers" :: path :: rest => answersPath? (some path) rest
  | _ :: rest => answersPath? found rest

/-- Whether a file found in a folder is a script: by its extension, and because it is named neither
like an answer book nor like a pacing. -/
def isScriptName (name : String) : Bool :=
  let (stem, extension) := Path.splitExtension name
  extension = some "ron" && !Path.occursIn "answer".toList stem.toList
    && !Path.occursIn "pacing".toList stem.toList

/-- The paths of the scripts below a folder, in order. -/
def scriptsBelow (disk : Disk) (folder : String) : List String :=
  let found := (disk.below folder).filter fun cs => cs.getLast?.any isScriptName
  (found.mergeSort fun a b => decide (List.le a b)).map fun cs => cs.foldl Path.join folder

structure Finding where
  severity : Severity
  message : String
  deriving DecidableEq, Repr

def bookFindings (book : Book) (script : Script) : List Finding :=
  match book.suspect? script.suspect with
  | none => [⟨.error, "suspect '" ++ script.suspect ++ "' is not in the answer book"⟩]
  | some file =>
    if file.entries.isEmpty then
      [⟨.warning, "answer book has no entries for '" ++ script.suspect ++ "'"⟩]
    else []

def findings (book : Option Book) : Except ScriptError Script → List Finding
  | .error e => [⟨.error, e.message⟩]
  | .ok script =>
    script.issues.map (fun i => ⟨i.severity, i.message⟩) ++
    (book.map (bookFindings · script)).getD []

def loadedLine (path : String) (script : Script) : String :=
  "  Loaded: " ++ path ++ " ('" ++ script.title ++ "', " ++ Nat.repr script.scenes.length
    ++ " scenes)"

/-- The report on files that have been read, in order. -/
def report (book : Option Book) (files : List (String × Except ScriptError Script)) : Outcome :=
  let loaded := files.filterMap fun f => f.2.toOption.map (loadedLine f.1)
  let found := files.flatMap fun f =>
    (findings book f.2).map fun x => { x with message := f.1 ++ ": " ++ x.message }
  let warnings := (found.filter (·.severity = .warning)).map (·.message)
  let errors := (found.filter (·.severity = .error)).map (·.message)
  { exit := if errors.isEmpty then 0 else 1
    out := Text.ofLines (loaded ++ ["", "=== Script Lint Report ===", ""] ++
      (if errors.isEmpty && warnings.isEmpty then ["All checks passed!"] else []) ++
      warnings.map ("WARNING: " ++ ·) ++ errors.map ("ERROR: " ++ ·) ++
      ["", "Summary: " ++ Nat.repr files.length ++ " files, " ++ Nat.repr errors.length
        ++ " errors, " ++ Nat.repr warnings.length ++ " warnings"]) }

def failure (message : String) : Outcome := { exit := 1, err := "ERROR: " ++ message ++ "\n" }

def run (disk : Disk) : List String → Outcome
  | [] => { out := usage }
  | target :: args =>
    if target = "--help" || target = "-h" then { out := usage }
    else
      match disk.kind target with
      | .missing => failure ("Path '" ++ target ++ "' does not exist")
      | kind =>
        let paths := if kind = .file then [target] else scriptsBelow disk target
        let files := paths.map fun path => (path, Script.ofFile (disk.read path))
        match answersPath? none args with
        | none => report none files
        | some path =>
          match Book.ofFile (disk.read path) with
          | .error e => failure ("Failed to load answer book: " ++ e.message)
          | .ok book => report (some book) files

end Inquest.Lint
