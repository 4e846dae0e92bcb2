import Inquest.Ron.Reader
/-!
# Shapes

Asking a type of a value of the object notation. Every function here gives nothing for a value of
another shape.
-/

namespace Inquest.Ron

abbrev Fields := List (String × Value)

namespace Value

def bool? : Value → Option Bool
  | bool b => some b
  | _ => none

def natural? (bound : Nat) : Value → Option Nat
  | natural n => if n ≤ bound then some n else none
  | _ => none

def text? : Value → Option String
  | text s => some s
  | _ => none

def list? {α : Type} (item : Value → Option α) : Value → Option (List α)
  | list vs => vs.mapM item
  | _ => none

/-- A map from texts to values of one shape, in the order of writing. -/
def map? {α : Type} (item : Value → Option α) : Value → Option (List (String × α))
  | map es => es.mapM fun (k, v) => do return (← k.text?, ← item v)
  | _ => none

/-- A value that may be absent; one that is present may go without its wrapping if it is `bare`. -/
def option? {α : Type} (bare : Bool) (item : Value → Option α) : Value → Option (Option α)
  | absent => some none
  | present v => (item v).map some
  | fused s => (item (text s)).map some
  | v => if bare then (item v).map some else none

def word? {α : Type} (words : List (String × α)) : Value → Option α
  | word w => words.lookup w
  | _ => none

/-- The fields of a record that goes by a name or by none. None of the known fields may be written
twice, and the others, of which nothing is asked, have to be plain. -/
def fields? (label : String) (known : List String) : Value → Option Fields
  | record name fields =>
    if name.all (· = label) && known.all (fun k => fields.countP (·.1 == k) ≤ 1)
        && fields.all (fun f => known.contains f.1 || f.2.isPlain) then some fields
    else none
  | _ => none

end Value

namespace Fields

def required {α : Type} (fs : Fields) (field : String) (item : Value → Option α) : Option α :=
  (fs.lookup field).bind item

/-- A field that stands for `default` when it is not there. -/
def optional {α : Type} (fs : Fields) (field : String) (default : α) (item : Value → Option α) :
    Option α :=
  match fs.lookup field with
  | some v => item v
  | none => some default

end Fields

/-- A way to read texts as values of a type. -/
abbrev Reading (α : Type) := String → Except Error α

/-- Reads a text as a value of a type. `decode` is told whether options may be bare. -/
def parse {α : Type} (decode : Bool → Value → Option α) (s : String) : Except Error α :=
  match document s with
  | none => .error .malformed
  | some (bare, v) => match decode bare v with
    | none => .error .mismatch
    | some a => .ok a

end Inquest.Ron
