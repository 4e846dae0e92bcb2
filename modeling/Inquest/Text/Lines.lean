/-!
# Lines and numbers in text

The lines of a text, numbers as they are typed, and text in columns.
-/

namespace Inquest.Text

/-- The lines of a text; a line feed ends a line, and what follows the last one is a line only if
there is something. -/
def linesFrom (line : List Char) : List Char → List (List Char)
  | [] => if line.isEmpty then [] else [line.reverse]
  | '\n' :: cs => line.reverse :: linesFrom [] cs
  | c :: cs => linesFrom (c :: line) cs

def lines (s : String) : List String := (linesFrom [] s.toList).map String.ofList

/-- Reads digits as a number: at least one, perhaps with a plus sign in front, and not beyond
`bound`. -/
def natural? (bound : Nat) (s : String) : Option Nat :=
  let digits := match s.toList with
    | '+' :: cs => cs
    | cs => cs
  if digits.isEmpty || !digits.all Char.isDigit then none
  else
    let n := digits.foldl (fun n c => 10 * n + (c.toNat - '0'.toNat)) 0
    if n ≤ bound then some n else none

def rightAlign (width : Nat) (s : String) : String :=
  String.ofList (List.replicate (width - s.length) ' ') ++ s

def ofLines (ls : List String) : String := String.join (ls.map (· ++ "\n"))

end Inquest.Text
