import Inquest.Reference.Answers
/-!
# The answer store

Holds the answer book once it arrives. A book that fails to load is replaced by the one of the
reference case, so that after any load there is a book to look things up in.
-/

namespace Inquest

/-- The answers, as far as they have arrived. -/
inductive AnswerStore where
  | loading
  | ready (book : Book)
  /-- Loading failed; another book is in use. -/
  | fallback (book : Book) (cause : BookError)
  deriving DecidableEq, Repr

inductive Lookup where
  | notLoaded
  | missing
  | found (entry : AnswerEntry)
  deriving DecidableEq, Repr

def Lookup.found? : Lookup → Option AnswerEntry
  | found entry => some entry
  | _ => none

namespace AnswerStore

def reference : AnswerStore := ready Reference.book

/-- Completes a load; any earlier state is replaced. -/
def finish (_store : AnswerStore) (result : Except BookError Book) : AnswerStore :=
  match result with
  | .ok book => ready book
  | .error cause => fallback Reference.book cause

def ofFile (file : FileText) : AnswerStore := loading.finish (Book.ofFile file)

def status : AnswerStore → String
  | loading => "Loading"
  | ready _ => "Ready"
  | fallback .. => "Fallback"

/-- Why the book in use stands in for another, if it does. -/
def fallbackReason? : AnswerStore → Option String
  | fallback _ cause => some cause.message
  | _ => none

def book? : AnswerStore → Option Book
  | loading => none
  | ready book | fallback book _ => some book

/-- The answer key for a suspect, once there is a book that has the suspect. -/
def answerKey? (s : AnswerStore) (suspect : String) : Option AnswerKey := do
  let book ← s.book?
  let file ← book.suspect? suspect
  return .ofEntries file.entries

/-- Looks up the truth about one claim of a suspect's summary. -/
def lookup (s : AnswerStore) (suspect : String) (claim : ClaimId) : Lookup :=
  match s.book? with
  | none => .notLoaded
  | some book =>
    match (book.suspect? suspect).bind (·.entries.find? (·.claim = claim)) with
    | some entry => .found entry
    | none => .missing

end AnswerStore

end Inquest
