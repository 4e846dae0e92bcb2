import Inquest.Disk
import Inquest.Grading
import Inquest.Ron.Shape
/-!
# Answer books

The answer entries of every suspect. A book that is read lists no claim twice in one suspect's file;
the same claim in two files is no repetition.
-/

namespace Inquest

structure SuspectFile where
  name : String
  entries : List AnswerEntry
  deriving DecidableEq, Repr

structure Book where
  suspects : List SuspectFile
  deriving DecidableEq, Repr, Inhabited

inductive BookError where
  | io (detail : String)
  | ron (cause : Ron.Error)
  | duplicateClaim (suspect : String) (claim : ClaimId)
  deriving DecidableEq, Repr

def BookError.message : BookError → String
  | io detail => ioMessage detail
  | ron cause => cause.message
  | duplicateClaim suspect claim =>
    "suspect '" ++ suspect ++ "' lists claim " ++ Nat.repr claim.toNat ++ " more than once"

/-- The first entry whose claim is among `seen` or occurs before it. -/
def firstRepeated? (seen : List ClaimId) : List AnswerEntry → Option AnswerEntry
  | [] => none
  | e :: es => if e.claim ∈ seen then some e else firstRepeated? (e.claim :: seen) es

def SuspectFile.error? (f : SuspectFile) : Option BookError :=
  (firstRepeated? [] f.entries).map fun e => .duplicateClaim f.name e.claim

/-- The category that a bare name, of a category or of a colour, stands for. -/
def Category.decode (v : Ron.Value) : Option Category :=
  v.word? [("Supported", supported), ("Green", supported), ("Misleading", misleading),
    ("Red", misleading), ("Fabricated", fabricated), ("Purple", fabricated)]

def Ron.Value.claim? (v : Ron.Value) : Option ClaimId := (v.natural? 4294967295).map UInt32.ofNat

/-- The entry that a record describes; its source may be bare if options may. -/
def AnswerEntry.decode (bare : Bool) (v : Ron.Value) : Option AnswerEntry := do
  let fs ← v.fields? "AnswerKeyEntry" ["claim", "category", "source"]
  return {
    claim := ← fs.required "claim" (·.claim?)
    category := ← fs.required "category" Category.decode
    source := ← fs.optional "source" none (·.option? bare (·.text?)) }

def SuspectFile.decode (bare : Bool) (v : Ron.Value) : Option SuspectFile := do
  let fs ← v.fields? "SuspectFile" ["name", "entries"]
  return {
    name := ← fs.required "name" (·.text?)
    entries := ← fs.required "entries" (·.list? (AnswerEntry.decode bare)) }

namespace Book

def decode (bare : Bool) (v : Ron.Value) : Option Book := do
  let fs ← v.fields? "AnswerBook" ["suspects"]
  return ⟨← fs.required "suspects" (·.list? (SuspectFile.decode bare))⟩

/-- Refuses a book in which some file lists a claim twice; the first such file is to blame. -/
def check (b : Book) : Except BookError Book :=
  match b.suspects.findSome? (·.error?) with
  | some e => .error e
  | none => .ok b

/-- Reads a book and checks it. -/
def parseWith (read : Ron.Reading Book) (s : String) : Except BookError Book := do
  check (← (read s).mapError .ron)

def parse : String → Except BookError Book := parseWith (Ron.parse decode)

def ofFile (file : FileText) : Except BookError Book := do
  parse (← file.mapError .io)

/-- The first file of a suspect. -/
def suspect? (b : Book) (name : String) : Option SuspectFile := b.suspects.find? (·.name = name)

end Book

end Inquest
