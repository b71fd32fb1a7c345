import SqlTemplate.Dict
import SqlTemplate.Error

/-!
A file system as a value: a tree of directories with files.  Paths that start with a slash are
followed from its root, and all others from the working directory.
-/
namespace SqlTemplate

/-- A path is written with slashes. -/
abbrev Path := Text

/-- A file with its text, unless its bytes are not UTF-8, and the time of its last change. -/
structure File where
  content : Option Text
  modified : Int
  deriving DecidableEq, Repr

inductive Node where
  | file (f : File)
  | directory (modified : Int)
  deriving DecidableEq, Repr

def Node.modified : Node → Int
  | .file f => f.modified
  | .directory t => t

structure FileSystem where
  /-- What there is under each sequence of names from the root, written with slashes between
  them. -/
  nodes : Dict Node
  /-- The time of the last change of the root itself. -/
  modified : Int
  /-- The names on the way from the root to the working directory. -/
  current : List Text

namespace FileSystem

/-- A file system with nothing but a working directory. -/
def empty : FileSystem := ⟨.ofList [("work".toList, .directory 0)], 0, ["work".toList]⟩

/-- What the names lead to from the root; no names lead to the root itself. -/
def nodeAt? (fs : FileSystem) (names : List Text) : Option Node :=
  if names.isEmpty then some (.directory fs.modified) else fs.nodes.get? (Text.join ['/'] names)

/-- The directory from which a path is followed, given by its names in reverse. -/
def start (fs : FileSystem) (path : Path) : List Text :=
  if Text.startsWith ['/'] path then [] else fs.current.reverse

/-- Follows the components of a path from a directory, given by its names in reverse.  Every
component but the last has to be a directory on the way.  Above the root is the root. -/
def walk? (fs : FileSystem) : List Text → List Text → Option (List Text)
  | here, [] => some here
  | here, component :: rest =>
    match fs.nodeAt? here.reverse with
    | some (.directory _) =>
      if component.isEmpty || component = ['.'] then walk? fs here rest
      else if component = ['.', '.'] then walk? fs here.tail rest
      else walk? fs (component :: here) rest
    | _ => none

/-- The names that a path leads to from the root, if all directories on the way are there. -/
def resolve? (fs : FileSystem) (path : Path) : Option (List Text) :=
  if path.isEmpty then none
  else (fs.walk? (fs.start path) (Text.splitAt '/' path)).map List.reverse

def node? (fs : FileSystem) (path : Path) : Option Node := do
  fs.nodeAt? (← fs.resolve? path)

def file? (fs : FileSystem) (path : Path) : Option File :=
  match fs.node? path with
  | some (.file f) => some f
  | _ => none

/-- The time of the last change of what is there, be it a file or a directory. -/
def modified? (fs : FileSystem) (path : Path) : Option Int := (fs.node? path).map Node.modified

/-- The text of a file. -/
def read (fs : FileSystem) (path : Path) : Except Error Text :=
  match fs.node? path with
  | none => .error (.unreadable path .missing)
  | some (.directory _) => .error (.unreadable path .directory)
  | some (.file ⟨none, _⟩) => .error (.unreadable path .notUtf8)
  | some (.file ⟨some t, _⟩) => .ok t

/-- Makes the directory that the components of a path lead to from `here`, which holds names in
reverse, with all directories on the way; those that are new get the time of the root. -/
def makeFrom (fs : FileSystem) (here : List Text) : List Text → FileSystem × List Text
  | [] => (fs, here)
  | component :: rest =>
    if component.isEmpty || component = ['.'] then makeFrom fs here rest
    else if component = ['.', '.'] then makeFrom fs here.tail rest
    else
      let there := component :: here
      let node := Node.directory fs.modified
      let fs := { fs with nodes := fs.nodes.insertNew (Text.join ['/'] there.reverse) node }
      makeFrom fs there rest

def makeDirectory (fs : FileSystem) (path : Path) : FileSystem :=
  (fs.makeFrom (fs.start path) (Text.splitAt '/' path)).1

/-- Writes a file, with the directories on the way to it. -/
def write (fs : FileSystem) (path : Path) (f : File) : FileSystem :=
  let components := Text.splitAt '/' path
  let (fs, here) := fs.makeFrom (fs.start path) components.dropLast
  let name := components.getLast?.getD []
  { fs with nodes := fs.nodes.insert (Text.join ['/'] (here.reverse ++ [name])) (.file f) }

/-- Removes what a path leads to. -/
def remove (fs : FileSystem) (path : Path) : FileSystem :=
  match fs.resolve? path with
  | some names => { fs with nodes := fs.nodes.erase (Text.join ['/'] names) }
  | none => fs

end FileSystem

namespace Path

def isRelative (path : Path) : Bool := !Text.startsWith ['/'] path

/-- Drops slashes and components of a single dot from the end of a path in reverse. -/
def dropEnd : Text → Text
  | '/' :: rest => if rest.isEmpty then ['/'] else dropEnd rest
  | '.' :: '/' :: rest => dropEnd ('/' :: rest)
  | rest => rest

/-- The directory part of a path. -/
def parent (path : Path) : Path :=
  (dropEnd ((dropEnd path.reverse).dropWhile (· != '/'))).reverse

/-- A path as seen from the directory that `base` leads to. -/
def join (base path : Path) : Path :=
  if !isRelative path then path
  else if base.isEmpty || base.getLast? = some '/' then base ++ path
  else base ++ '/' :: path

end Path

end SqlTemplate
