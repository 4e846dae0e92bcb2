import Inquest.Ron.Value
/-!
# Tokens of the object notation

White space and comments, names, quoted texts, characters and numbers.
-/

namespace Inquest.Ron

mutual

/-- Skips white space and comments. Fails on a comment without an end and on a stray slash. -/
def skipBlank : List Char → Option (List Char)
  | [] => some []
  | '/' :: '/' :: cs => skipLine cs
  | '/' :: '*' :: cs => skipBlock 0 cs
  | '/' :: _ => none
  | c :: cs => if c = ' ' ∨ c = '\t' ∨ c = '\n' ∨ c = '\r' then skipBlank cs else some (c :: cs)

def skipLine : List Char → Option (List Char)
  | [] => some []
  | c :: cs => if c = '\n' then skipBlank cs else skipLine cs

/-- Skips a block comment inside `depth` others, then goes on skipping. -/
def skipBlock (depth : Nat) : List Char → Option (List Char)
  | [] => none
  | '/' :: '*' :: cs => skipBlock (depth + 1) cs
  | '*' :: '/' :: cs => match depth with
    | 0 => skipBlank cs
    | d + 1 => skipBlock d cs
  | _ :: cs => skipBlock depth cs

end

def isNameStart (c : Char) : Bool := c.isAlpha || c == '_'

def isNameRest (c : Char) : Bool := c.isAlphanum || c == '_'

/-- A character that may stand in a name written with `r#`. -/
def isRawName (c : Char) : Bool := isNameRest c || c == '.' || c == '+' || c == '-'

/-- Reads a name, and tells whether it was written with `r#`. A plain name may not run into a
character that only the other kind may hold, and `r` before a quote begins a text. -/
def name : Reader (String × Bool)
  | 'r' :: '#' :: cs =>
    let word := cs.takeWhile isRawName
    if word.isEmpty then none
    else some ((String.ofList word, true), cs.dropWhile isRawName)
  | c :: cs =>
    if !isNameStart c || (c == 'r' && (cs.isEmpty || cs.head? == some '"')) then none
    else
      let word := c :: cs.takeWhile isNameRest
      let rest := cs.dropWhile isNameRest
      if rest.head?.any isRawName then none else some ((String.ofList word, false), rest)
  | [] => none

/-- Drops a word from the front, unless a name goes on after it. -/
def dropWord (word : String) (cs : List Char) : Option (List Char) :=
  let rest := cs.drop word.length
  if word.toList.isPrefixOf cs && !rest.head?.any isNameRest then some rest else none

def hexDigit? (c : Char) : Option Nat :=
  if '0' ≤ c ∧ c ≤ '9' then some (c.toNat - '0'.toNat)
  else if 'a' ≤ c ∧ c ≤ 'f' then some (c.toNat - 'a'.toNat + 10)
  else if 'A' ≤ c ∧ c ≤ 'F' then some (c.toNat - 'A'.toNat + 10)
  else none

def charOf? (n : Nat) : Option Char := if n.isValidChar then some (Char.ofNat n) else none

def hexValue? (cs : List Char) : Option Nat :=
  cs.foldlM (fun n c => (hexDigit? c).map (16 * n + ·)) 0

def escape : Reader Char
  | 'n' :: cs => some ('\n', cs)
  | 'r' :: cs => some ('\r', cs)
  | 't' :: cs => some ('\t', cs)
  | '0' :: cs => some (Char.ofNat 0, cs)
  | '"' :: cs => some ('"', cs)
  | '\'' :: cs => some ('\'', cs)
  | '\\' :: cs => some ('\\', cs)
  | 'x' :: a :: b :: cs => do
    let n ← hexValue? [a, b]
    return (Char.ofNat n, cs)
  | 'u' :: '{' :: cs => do
    let digits := (cs.take 6).takeWhile (· ≠ '}')
    if digits.isEmpty then none
    else match cs.drop digits.length with
      | '}' :: rest => do
        let n ← hexValue? digits
        let c ← charOf? n
        return (c, rest)
      | _ => none
  | _ => none

/-- Reads a quoted text after its opening quote; `read` holds what has been read, last character
first, and `budget` is at least the number of characters left. -/
def quotedFrom (read : List Char) : Nat → Reader String
  | 0, _ => none
  | _ + 1, '"' :: cs => some (String.ofList read.reverse, cs)
  | budget + 1, '\\' :: cs => do
    let (c, rest) ← escape cs
    quotedFrom (c :: read) budget rest
  | budget + 1, c :: cs => quotedFrom (c :: read) budget cs
  | _ + 1, [] => none

/-- Reads a raw text after its opening quote, up to a quote with `hashes` hash signs after it. -/
def rawFrom (hashes : Nat) (read : List Char) : Reader String
  | [] => none
  | c :: cs =>
    if c = '"' ∧ (cs.take hashes) = List.replicate hashes '#' then
      some (String.ofList read.reverse, cs.drop hashes)
    else rawFrom hashes (c :: read) cs

def text : Reader String
  | '"' :: cs => quotedFrom [] (cs.length + 1) cs
  | 'r' :: cs =>
    let hashes := (cs.takeWhile (· = '#')).length
    match cs.drop hashes with
    | '"' :: rest => rawFrom hashes [] rest
    | _ => none
  | _ => none

def character : Reader Char
  | '\'' :: '\\' :: cs => do
    match ← escape cs with
    | (c, '\'' :: rest) => return (c, rest)
    | _ => none
  | '\'' :: c :: '\'' :: rest => if c = '\'' then none else some (c, rest)
  | _ => none

def isIntegerChar (c : Char) : Bool := (hexDigit? c).isSome || c == '_'

def isFractionChar (c : Char) : Bool :=
  c.isDigit || c == 'e' || c == 'E' || c == '.' || c == '+' || c == '-' || c == '_'

def maxNatural : Nat := 18446744073709551615

/-- The largest integer with a plus sign; with a minus sign there is one more. -/
def maxSigned : Nat := 9223372036854775807

/-- The number that digits of a base write, with underscores ignored. -/
def digitsValue? (base : Nat) (cs : List Char) : Option Nat :=
  (cs.filter (· ≠ '_')).foldlM (fun n c => do
    let d ← hexDigit? c
    if d < base then some (base * n + d) else none) 0

/-- Reads an unsigned integer: decimal, or in base 16, 2 or 8 after `0x`, `0b` or `0o`. Underscores
may stand anywhere but in front. -/
def unsigned : Reader Nat := fun cs =>
  let (base, digits) := match cs with
    | '0' :: 'x' :: cs => (16, cs)
    | '0' :: 'b' :: cs => (2, cs)
    | '0' :: 'o' :: cs => (8, cs)
    | _ => (10, cs)
  let word := digits.takeWhile isIntegerChar
  if word.isEmpty || word.head? == some '_' then none
  else do
    let n ← digitsValue? base word
    return (n, digits.dropWhile isIntegerChar)

/-- Whether the characters write a decimal fraction: digits with at most one point among them, and
perhaps an exponent. -/
def isFraction (cs : List Char) : Bool :=
  let unsignedPart := match cs with
    | '+' :: cs => cs
    | '-' :: cs => cs
    | cs => cs
  let whole := unsignedPart.takeWhile Char.isDigit
  let (places, rest) := match unsignedPart.dropWhile Char.isDigit with
    | '.' :: cs => (cs.takeWhile Char.isDigit, cs.dropWhile Char.isDigit)
    | cs => ([], cs)
  let exponent := match rest with
    | [] => true
    | c :: cs =>
      let digits := match cs with
        | '+' :: cs => cs
        | '-' :: cs => cs
        | cs => cs
      (c == 'e' || c == 'E') && !digits.isEmpty && digits.all Char.isDigit
  !(whole.isEmpty && places.isEmpty) && exponent

/-- Reads a number as a fraction, or as one of the names of the numbers that are not finite. -/
def fraction : Reader Value := fun cs =>
  let digits := match cs with
    | '+' :: cs => cs
    | '-' :: cs => cs
    | cs => cs
  match name digits with
  | some (("inf", false), rest) => some (.number, rest)
  | some (("NaN", false), rest) => some (.number, rest)
  | _ =>
    let word := cs.takeWhile isFractionChar
    if isFraction word then some (.number, cs.dropWhile isFractionChar) else none

/-- Reads a number of any kind. A number that reaches further as a fraction is one; any other is an
integer if it can be one within its bounds, and a fraction if it cannot. -/
def number : Reader Value := fun cs =>
  let (bound, meaning, digits) : Nat × (Nat → Value) × List Char := match cs with
    | '+' :: cs => (maxSigned, fun _ => .number, cs)
    | '-' :: cs => (maxSigned + 1, fun _ => .number, cs)
    | cs => (maxNatural, .natural, cs)
  if (digits.takeWhile isIntegerChar).length < (digits.takeWhile isFractionChar).length then
    fraction cs
  else match unsigned digits with
    | some (n, rest) => if n ≤ bound then some (meaning n, rest) else fraction cs
    | none => fraction cs

/-- The words that are values of their own. -/
def constants : List (String × Value) := [
  ("true", .bool true), ("false", .bool false), ("None", .absent), ("inf", .number),
  ("-inf", .number), ("NaN", .number)]

def constant : Reader Value := fun cs =>
  constants.findSome? fun (word, v) => (dropWord word cs).map fun rest => (v, rest)

/-- Reads `Some` with a raw text directly behind it. -/
def fused : Reader Value
  | 'S' :: 'o' :: 'm' :: 'e' :: 'r' :: cs => (text ('r' :: cs)).map fun (s, rest) => (.fused s, rest)
  | _ => none

end Inquest.Ron
