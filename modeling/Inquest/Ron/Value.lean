/-!
# Values of the object notation

What a text in the object notation (RON) means before a type is asked of it: numbers, texts, lists,
maps, tuples and records, the last two with or without a name in front.
-/

namespace Inquest.Ron

inductive Value where
  | bool (b : Bool)
  | natural (n : Nat)
  /-- A number with a sign, a fraction or an exponent, or too large; what it amounts to is never
  asked. -/
  | number
  | char (c : Char)
  | text (s : String)
  | absent
  | present (v : Value)
  | list (vs : List Value)
  | map (entries : List (Value × Value))
  /-- Values in parentheses, possibly with a name in front. -/
  | tuple (name : Option String) (vs : List Value)
  /-- Fields in parentheses, possibly with a name in front. -/
  | record (name : Option String) (fields : List (String × Value))
  | word (name : String)
  /-- `Some` run together with a raw text, as in `Somer"x"`. Where an option is asked for this is
  the text, present; anywhere else it is a name with a stray text behind it, which is malformed. -/
  | fused (s : String)
  deriving Inhabited

namespace Value

mutual

/-- Whether a value of which nothing is asked is well-formed: there is nothing fused in it. -/
def isPlain : Value → Bool
  | present v => v.isPlain
  | list vs => allPlain vs
  | tuple _ vs => allPlain vs
  | map es => entriesPlain es
  | record _ fs => fieldsPlain fs
  | fused _ => false
  | _ => true

def allPlain : List Value → Bool
  | [] => true
  | v :: vs => v.isPlain && allPlain vs

def entriesPlain : List (Value × Value) → Bool
  | [] => true
  | (k, v) :: es => k.isPlain && v.isPlain && entriesPlain es

def fieldsPlain : List (String × Value) → Bool
  | [] => true
  | (_, v) :: fs => v.isPlain && fieldsPlain fs

end

end Value

/-- Why a text does not give a value of the wanted type. -/
inductive Error where
  /-- The text is not in the notation. -/
  | malformed
  /-- The text is in the notation, but its value is not of the wanted type. -/
  | mismatch
  deriving DecidableEq, Repr

def Error.message : Error → String
  | malformed => "RON deserialization error: the text is malformed"
  | mismatch => "RON deserialization error: the value does not have the expected shape"

/-- Reads something from the front of a text; gives it with the rest of the text. -/
abbrev Reader (α : Type) := List Char → Option (α × List Char)

end Inquest.Ron
