/-!
# Claims and their categories

The numbered claims of a suspect's summary and the three classifications a claim can carry, each
with the colour of its highlighter.
-/

namespace Inquest

abbrev ClaimId := UInt32

/-- What a claim is: backed by the evidence, a twisted reading of it, or made up. -/
inductive Category where
  | supported
  | misleading
  | fabricated
  deriving DecidableEq, Repr, Inhabited

namespace Category

def name : Category → String
  | supported => "Supported"
  | misleading => "Misleading"
  | fabricated => "Fabricated"

def colour : Category → String
  | supported => "green"
  | misleading => "red"
  | fabricated => "purple"

/-- What is shown for it once the answers are revealed. -/
def label : Category → String
  | supported => "FACT - Supported by evidence"
  | misleading => "MISREPRESENTATION - Misleading interpretation"
  | fabricated => "HALLUCINATION - No evidence found"

/-- The words, in lower case, that mean each category. -/
def words : List (String × Category) := [
  ("green", supported), ("supported", supported), ("fact", supported),
  ("red", misleading), ("misleading", misleading), ("misrepresentation", misleading),
  ("purple", fabricated), ("fabricated", fabricated), ("hallucination", fabricated)]

/-- Reads a colour or a name in any mixture of cases. Lower case of ASCII letters is enough: no other
character has a lower-case form that occurs in one of the words. -/
def parse (s : String) : Option Category :=
  words.lookup (s.map Char.toLower)

end Category

end Inquest
