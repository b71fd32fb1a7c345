import SqlTemplate.Settings
import SqlTemplate.SqlFile

/-!
A catalog gives access to the fragments of the configured files by their qualified names.  It
holds the files that have been read, and no operation that fails changes what it holds.
-/
namespace SqlTemplate

structure Catalog where
  settings : Settings
  renderer : Renderer
  /-- The files that have been read, by their aliases. -/
  files : Dict SqlFile

namespace Catalog

/-- A catalog that has read no file. -/
def make (settings : Settings) : Except Error Catalog := do
  settings.validate
  let renderer ← Renderer.make settings.sigil settings.constants settings.strict
  return ⟨settings, renderer, ∅⟩

def withPipe (c : Catalog) (name : Text) (pipe : Pipe) : Catalog :=
  { c with renderer := c.renderer.withPipe name pipe }

/-- Reads all files of a list of aliases with paths. -/
def loadAll (fs : FileSystem) (terminator : Text) :
    List (Text × Path) → Except Error (List (Text × SqlFile))
  | [] => .ok []
  | (fileAlias, path) :: rest => do
    let file ← SqlFile.load fs fileAlias path terminator
    let more ← loadAll fs terminator rest
    return (fileAlias, file) :: more

/-- Reads every configured file. -/
def init (fs : FileSystem) (c : Catalog) : Except Error Unit × Catalog :=
  match loadAll fs c.settings.terminator c.settings.files.entries with
  | .ok files => (.ok (), { c with files := .ofList files })
  | .error e => (.error e, c)

/-- A file that was read again: its alias, its path and how many fragments it has. -/
structure Reloaded where
  fileAlias : Text
  path : Path
  count : Nat

def Reloaded.message (r : Reloaded) : String :=
  "loaded " ++ toString r.count ++ " fragments of '" ++ r.fileAlias.str ++ "' from " ++ r.path.str

/-- Reads those of the files that have not been read or have changed, and keeps the others. -/
def loadStale (fs : FileSystem) (c : Catalog) :
    List (Text × Path) → Except Error (List Reloaded × List (Text × SqlFile))
  | [] => .ok ([], [])
  | (fileAlias, path) :: rest =>
    match (c.files.get? fileAlias).filter fun file => !file.isStale fs with
    | some file => do
      let (reloaded, files) ← loadStale fs c rest
      return (reloaded, (fileAlias, file) :: files)
    | none => do
      let file ← SqlFile.load fs fileAlias path c.settings.terminator
      let (reloaded, files) ← loadStale fs c rest
      return (⟨fileAlias, file.path, file.fragments.size⟩ :: reloaded, (fileAlias, file) :: files)

/-- Brings all files up to date. -/
def reload (fs : FileSystem) (c : Catalog) : Except Error (List Reloaded) × Catalog :=
  match loadStale fs c c.settings.files.entries with
  | .ok (reloaded, files) => (.ok reloaded, { c with files := .ofList files })
  | .error e => (.error e, c)

/-- The file of an alias as it has been read, unless it has to be read anew. -/
def current? (fs : FileSystem) (c : Catalog) (fileAlias : Text) : Option SqlFile :=
  (c.files.get? fileAlias).filter fun file => !(c.settings.checkModified && file.isStale fs)

/-- The file of a configured alias, read where that is needed. -/
def file (fs : FileSystem) (c : Catalog) (fileAlias : Text) (path : Path) :
    Except Error SqlFile × Catalog :=
  match c.current? fs fileAlias with
  | some file => (.ok file, c)
  | none =>
    match SqlFile.load fs fileAlias path c.settings.terminator with
    | .ok file => (.ok file, { c with files := c.files.insert fileAlias file })
    | .error e => (.error e, c)

/-- A name without what follows its first caret and without blanks around it. -/
def plainName (name : Text) : Text :=
  Text.trim (match name.cut? '^' with
    | some (front, _) => front
    | none => name)

/-- The fragment of a qualified name: an alias, a dot, and the name in the file. -/
def get (fs : FileSystem) (c : Catalog) (name : Text) : Except Error Fragment × Catalog :=
  let name := plainName name
  match name.cut? '.' with
  | none => (.error (.unknownFragment name), c)
  | some (fileAlias, own) =>
    match c.settings.files.get? fileAlias with
    | none => (.error (.unknownFragment name), c)
    | some path =>
      match c.file fs fileAlias path with
      | (.error e, c) => (.error e, c)
      | (.ok file, c) =>
        match file.fragments.get? own with
        | some f => (.ok f, c)
        | none => (.error (.unknownFragment name), c)

/-- Gets a fragment and uses it with the renderer. -/
def use {α : Type} (fs : FileSystem) (c : Catalog) (name : Text)
    (f : Renderer → Fragment → Except Error α) : Except Error α × Catalog :=
  match c.get fs name with
  | (.ok fragment, c) => (f c.renderer fragment, c)
  | (.error e, c) => (.error e, c)

def getSql (fs : FileSystem) (c : Catalog) (name : Text) : Except Error Text × Catalog :=
  c.use fs name fun _ f => .ok f.source

def contains (fs : FileSystem) (c : Catalog) (name : Text) : Bool × Catalog :=
  match c.get fs name with
  | (.ok _, c) => (true, c)
  | (.error _, c) => (false, c)

def render (fs : FileSystem) (c : Catalog) (name : Text) (args : Args) :
    Except Error Rendering × Catalog :=
  c.use fs name fun r f => r.render f.template args

def prepare (fs : FileSystem) (c : Catalog) (name : Text) (args : Args) :
    Except Error Statement × Catalog :=
  c.use fs name fun r f => r.prepare f.template args

def inline (fs : FileSystem) (c : Catalog) (name : Text) (args : Args) :
    Except Error Text × Catalog :=
  c.use fs name fun r f => r.inline f.template args

/-- The qualified names of all fragments that have been read, file by file. -/
def names (c : Catalog) : List Text :=
  c.files.values.flatMap fun file =>
    file.fragments.keys.map fun name => file.fileAlias ++ '.' :: name

/-- How many fragments have been read. -/
def size (c : Catalog) : Nat := c.files.values.foldl (fun n file => n + file.fragments.size) 0

def isEmpty (c : Catalog) : Bool := c.size == 0

end Catalog

end SqlTemplate
