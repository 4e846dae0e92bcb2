import Inquest.Path
/-!
# Files, disks and outcomes

What a tool may ask of a file system, and what it leaves behind. A disk can be held in memory as a
list of files.
-/

namespace Inquest

/-- The text of a file, or the system's account of why there is none. -/
abbrev FileText := Except String String

def ioMessage (detail : String) : String := "IO error: " ++ detail

inductive PathKind where
  | file
  | folder
  | missing
  deriving DecidableEq, Repr

/-- A file system as a tool sees it. -/
structure Disk where
  kind : String → PathKind
  read : String → FileText
  /-- The files below a folder, each as the components that lead from the folder to it. -/
  below : String → List (List String)

/-- Files held in memory, each under its components. -/
abbrev FileTree := List (List String × FileText)

namespace FileTree

def isInside (folder file : List String) : Bool :=
  folder.isPrefixOf file && folder.length < file.length

/-- What components lead to. Folders are what leads to files; the root is one in any case. -/
def kindAt (files : FileTree) (cs : List String) : PathKind :=
  if (files.lookup cs).isSome then .file
  else if cs.isEmpty || files.any (isInside cs ·.1) then .folder
  else .missing

/-- Follows the pieces of a path. Each is looked up in a folder, so that nothing leads through a
file or through what is not there. Two dots lead back up, and from the root they lead nowhere. -/
def follow (files : FileTree) (here : List String) : List String → Option (List String)
  | [] => some here
  | piece :: rest =>
    if files.kindAt here ≠ .folder then none
    else if piece = "" || piece = "." then follow files here rest
    else if piece = ".." then
      if here.isEmpty then none else follow files here.dropLast rest
    else follow files (here ++ [piece]) rest

/-- The components that a path leads to from the root. An empty path leads nowhere, and neither does
one that begins with a slash. -/
def place? (files : FileTree) (path : String) : Option (List String) :=
  match Path.pieces path with
  | "" :: _ => none
  | ps => files.follow [] ps

def kind (files : FileTree) (path : String) : PathKind :=
  (files.place? path).elim .missing files.kindAt

def read (files : FileTree) (path : String) : FileText :=
  match (files.place? path).bind (files.lookup ·), files.kind path with
  | some text, _ => text
  | none, .folder => .error "Is a directory"
  | none, _ => .error "No such file or directory"

def below (files : FileTree) (path : String) : List (List String) :=
  match files.place? path with
  | none => []
  | some folder => (files.filter (isInside folder ·.1)).map fun f => f.1.drop folder.length

end FileTree

def Disk.ofFiles (files : FileTree) : Disk := ⟨files.kind, files.read, files.below⟩

structure Outcome where
  exit : UInt32 := 0
  out : String := ""
  err : String := ""
  deriving DecidableEq, Repr

end Inquest
