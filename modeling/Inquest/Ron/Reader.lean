import Inquest.Ron.Token
/-!
# Reading the object notation

A document is a value, with attributes that switch extensions on before it, and nothing but white
space and comments around. Of the extensions only `implicit_some` matters to what is read here.
-/

namespace Inquest.Ron

/-- Reads items with commas between them, and perhaps one after the last, up to a closing character;
`budget` is more than the number of items. -/
def items {α : Type} (close : Char) (item : Reader α) : Nat → Reader (List α)
  | 0, _ => none
  | budget + 1, cs => do
    let cs ← skipBlank cs
    if cs.head? = some close then return ([], cs.tail)
    else
      let (a, cs) ← item cs
      match ← skipBlank cs with
      | ',' :: cs => do
        let (as, cs) ← items close item budget cs
        return (a :: as, cs)
      | c :: cs => if c = close then some ([a], cs) else none
      | [] => none

def pair {α β : Type} (a : Reader α) (separator : Char) (b : Reader β) : Reader (α × β) := fun cs => do
  let (x, cs) ← a cs
  match ← skipBlank cs with
  | c :: cs =>
    if c = separator then
      let (y, cs) ← b (← skipBlank cs)
      return ((x, y), cs)
    else none
  | [] => none

/-- Whether a field begins here: a name and then a colon. -/
def startsField (cs : List Char) : Bool :=
  match name cs with
  | some (_, rest) => (skipBlank rest).any (·.head? == some ':')
  | none => false

/-- Reads what follows an opening parenthesis: a record if a field begins there, and else a tuple. -/
def group (element : Reader Value) (label : Option String) : Reader Value := fun cs => do
  let cs ← skipBlank cs
  let budget := cs.length + 1
  if startsField cs then
    let field := pair (fun cs => (name cs).map fun (n, rest) => (n.1, rest)) ':' element
    let (fields, rest) ← items ')' field budget cs
    return (.record label fields, rest)
  else
    let (vs, rest) ← items ')' element budget cs
    return (.tuple label vs, rest)

/-- Reads what follows `Some`: a value in parentheses, or a bare one if that is allowed. -/
def optional (bare : Bool) (inner : Reader Value) : Reader Value := fun cs => do
  match ← skipBlank cs with
  | '(' :: cs => do
    let (v, cs) ← inner (← skipBlank cs)
    match ← skipBlank cs with
    | ')' :: cs => return (.present v, cs)
    | ',' :: cs => match ← skipBlank cs with
      | ')' :: cs => return (.present v, cs)
      | _ => none
    | _ => none
  | cs => if bare then (inner cs).map fun (v, rest) => (.present v, rest) else none

/-- Reads one value, given readers for the parts of a compound and for the content of an option. -/
def valueWith (bare : Bool) (element inner : Reader Value) : Reader Value := fun cs =>
  match cs with
  | '(' :: cs => group element none cs
  | '[' :: cs => (items ']' element (cs.length + 1) cs).map fun (vs, rest) => (.list vs, rest)
  | '{' :: cs =>
    (items '}' (pair element ':' element) (cs.length + 1) cs).map fun (es, rest) => (.map es, rest)
  | '"' :: _ => (text cs).map fun (s, rest) => (.text s, rest)
  | '\'' :: _ => (character cs).map fun (c, rest) => (.char c, rest)
  | _ => match constant cs with
    | some result => some result
    | none => match dropWord "Some" cs with
      | some rest => optional bare inner rest
      | none => match if bare then fused cs else none with
        | some result => some result
        | none => match name cs with
          | some ((word, _), rest) => do
            match ← skipBlank rest with
            | '(' :: cs => group element (some word) cs
            | cs => return (.word word, cs)
          | none =>
            if cs.head? = some 'r' then (text cs).map fun (s, rest) => (.text s, rest)
            else number cs

/-- Reads one value within a number of recursion steps: an option takes one of them, and a compound
two, one for itself and one for its parts. -/
def value (bare : Bool) : Nat → Reader Value
  | 0 => valueWith bare (fun _ => none) (fun _ => none)
  | 1 => valueWith bare (fun _ => none) (value bare 0)
  | steps + 2 => valueWith bare (value bare steps) (value bare (steps + 1))

def maxSteps : Nat := 128

/-- The extensions that a document may switch on. -/
def extensions : List String := ["unwrap_newtypes", "implicit_some", "unwrap_variant_newtypes"]

def expect : List String → List Char → Option (List Char)
  | [], cs => some cs
  | w :: ws, cs =>
    if w.toList.isPrefixOf cs then (skipBlank (cs.drop w.length)).bind (expect ws) else none

/-- Reads the names of extensions up to the closing parenthesis of an attribute; tells whether
options may be bare. -/
def extensionNames (bare : Bool) : Nat → Reader Bool
  | 0, _ => none
  | budget + 1, cs => do
    let ((ext, _), cs) ← name cs
    if !extensions.contains ext then none
    else
      let bare := bare || ext == "implicit_some"
      match ← skipBlank cs with
      | ',' :: cs => do
        let cs ← skipBlank cs
        if cs.head?.any isNameRest then extensionNames bare budget cs else some (bare, cs)
      | cs => if cs.head?.any isNameRest then none else some (bare, cs)

/-- Reads the attributes in front of a document; tells whether options may be bare. -/
def attributes (bare : Bool) : Nat → Reader Bool
  | 0, _ => none
  | budget + 1, cs =>
    if cs.head? = some '#' then do
      let cs ← expect ["#", "!", "[", "enable", "("] cs
      let (bare, cs) ← extensionNames bare (cs.length + 1) cs
      let cs ← expect [")", "]"] (← skipBlank cs)
      attributes bare budget cs
    else some (bare, cs)

/-- Reads a whole document; gives its value and whether options may be bare. -/
def document (s : String) : Option (Bool × Value) := do
  let cs ← skipBlank s.toList
  let (bare, cs) ← attributes false (cs.length + 1) cs
  let (v, cs) ← value bare maxSteps cs
  if (← skipBlank cs).isEmpty then return (bare, v) else none

end Inquest.Ron
