/-!
# Paths

Paths as texts: their components, the extension of a file name, and the order of paths, which
compares component by component.
-/

namespace Inquest.Path

/-- The pieces between slashes; `piece` holds the current one, last character first. -/
def splitFrom (piece : List Char) : List Char → List (List Char)
  | [] => [piece.reverse]
  | '/' :: cs => piece.reverse :: splitFrom [] cs
  | c :: cs => splitFrom (c :: piece) cs

def pieces (path : String) : List String := (splitFrom [] path.toList).map String.ofList

/-- The components of a path; empty pieces and single dots do not count. -/
def components (path : String) : List String :=
  (pieces path).filter fun c => c != "" && c != "."

def join (folder name : String) : String :=
  if folder.toList.getLast? = some '/' then folder ++ name else folder ++ "/" ++ name

/-- The part of a file name before its last dot and the part after it. A dot in front is part of the
name. -/
def splitExtension (name : String) : String × Option String :=
  let cs := name.toList.reverse
  let extension := cs.takeWhile (· ≠ '.')
  match cs.drop extension.length with
  | '.' :: stem =>
    if stem.isEmpty || name == ".." then (name, none)
    else (String.ofList stem.reverse, some (String.ofList extension.reverse))
  | _ => (name, none)

def occursIn (part : List Char) : List Char → Bool
  | [] => part.isEmpty
  | c :: cs => part.isPrefixOf (c :: cs) || occursIn part cs

end Inquest.Path
