import SqlTemplate.FileSystem
import SqlTemplate.Placeholder
import SqlTemplate.Renderer

/-!
SQL files.  A file holds named fragments, which are statements, and named parts, which fragments
take in by placeholders.  A header line opens a block and a line that ends in the terminator
closes it; descriptions in comments belong to the fragment below them.
-/
namespace SqlTemplate

structure Fragment where
  fileAlias : Text
  name : Text
  source : Text
  description : Text
  template : Template

def Fragment.qualifiedName (f : Fragment) : Text := f.fileAlias ++ '.' :: f.name

structure SqlFile where
  fileAlias : Text
  path : Path
  modified : Option Int
  fragments : Dict Fragment
  parts : Dict Text

namespace SqlFile

/-- Whether a text is the end of a header: blanks, the closing bracket, blanks, the end of the
comment. -/
def closesHeader (close : Char) (cs : Text) : Bool :=
  match Text.skipBlanks cs with
  | c :: rest => c == close && Text.skipBlanks rest == ['*', '/']
  | [] => false

/-- The shortest name without blanks that the end of a header follows. -/
def headerName? (close : Char) : Text → Option Text
  | [] => none
  | c :: cs =>
    if Unicode.isBlank c then none
    else if closesHeader close cs then some [c]
    else (headerName? close cs).map (c :: ·)

/-- The name in a comment that consists of brackets with a name between them. -/
def bracketed? (opening close : Char) (line : Text) : Option Text := do
  let cs ← Text.dropFront? ['/', '*'] line
  match Text.skipBlanks cs with
  | c :: rest => if c = opening then headerName? close (Text.skipBlanks rest) else none
  | [] => none

/-- The kind and the name of the block that a line opens. -/
def header? (line : Text) : Option (BlockKind × Text) :=
  match bracketed? '[' ']' line with
  | some name => some (.fragment, name)
  | none => (bracketed? '{' '}' line).map fun name => (.part, name)

/-- A block that is open. -/
structure OpenBlock where
  kind : BlockKind
  name : Text
  description : Option Text
  body : List Text

/-- What has been read of a file.  `pending` is a description that waits for its fragment, and
`comment` holds the lines of one that is still open. -/
structure Draft where
  fragments : Dict (Text × Text)
  parts : Dict Text
  current : Option OpenBlock
  pending : Option Text
  comment : Option (List Text)

namespace Draft

def empty : Draft := ⟨∅, ∅, none, none, none⟩

/-- A description belongs to the open block while that has no lines, and otherwise, unless a block
is open, to the next one. -/
def describe (d : Draft) (lines : List Text) : Draft :=
  let text := Text.unlines (lines.filter (!·.isEmpty))
  match d.current with
  | some b =>
    if b.body.isEmpty then { d with current := some { b with description := some text } } else d
  | none => { d with pending := some text }

/-- Enters the open block, if there is one. -/
def close (fileAlias : Text) (d : Draft) : Except Error Draft :=
  match d.current with
  | none => .ok d
  | some b =>
    let body := Text.unlines b.body
    match b.kind with
    | .fragment =>
      if d.fragments.contains b.name then .error (.duplicateName .fragment fileAlias b.name)
      else
        let fragments := d.fragments.insert b.name (b.description.getD [], body)
        .ok { d with current := none, fragments }
    | .part =>
      if d.parts.contains b.name then .error (.duplicateName .part fileAlias b.name)
      else .ok { d with current := none, parts := d.parts.insert b.name body }

def start (fileAlias : Text) (d : Draft) (kind : BlockKind) (name : Text) : Except Error Draft := do
  let d ← d.close fileAlias
  return { d with current := some ⟨kind, name, d.pending, []⟩, pending := none }

/-- Reads a line of the open block, if there is one.  Blank lines and comments are left out. -/
def bodyLine (fileAlias terminator : Text) (d : Draft) (line : Text) : Except Error Draft :=
  match d.current with
  | none => .ok d
  | some b =>
    if line.isBlank ||
        (Text.startsWith ['-', '-'] line.trim && (Directive.read? line.trim).isNone) then .ok d
    else
      let line := line.trimEnd
      match Text.dropBack? terminator line with
      | none => .ok { d with current := some { b with body := b.body ++ [line] } }
      | some last =>
        let body := if last.isBlank then b.body else b.body ++ [last.trimEnd]
        close fileAlias { d with current := some { b with body } }

/-- Reads one line. -/
def line (fileAlias terminator : Text) (d : Draft) (line : Text) : Except Error Draft :=
  let trimmed := line.trim
  match d.comment with
  | some lines =>
    match Text.dropBack? ['#', '*', '/'] trimmed with
    | some last => .ok ({ d with comment := none }.describe (lines ++ [Text.trim last]))
    | none => .ok { d with comment := some (lines ++ [trimmed]) }
  | none =>
    match Text.dropFront? ['/', '*', '#'] trimmed with
    | some rest =>
      match Text.dropBack? ['#', '*', '/'] rest with
      | some text => .ok (d.describe [Text.trim text])
      | none => .ok { d with comment := some [Text.trim rest] }
    | none =>
      match header? trimmed with
      | some (kind, name) => d.start fileAlias kind name
      | none => d.bodyLine fileAlias terminator line

def lines (fileAlias terminator : Text) (d : Draft) : List Text → Except Error Draft
  | [] => .ok d
  | l :: ls => do lines fileAlias terminator (← d.line fileAlias terminator l) ls

end Draft

/-- The text of a part for a placeholder of its name; a colon keeps a placeholder from standing for
a part. -/
def partFor (parts : Dict Text) (p : Placeholder) : Option Text :=
  if p.mark = .colon then none else parts.get? p.name

/-- Puts parts in the places of their placeholders, also those that parts bring along. -/
def inlineParts (parts : Dict Text) (sql : Text) : Text :=
  Placeholder.settle (overPlain (Placeholder.fill (partFor parts))) Placeholder.rounds sql

/-- Makes a fragment of a description and a body, whose directives have to be in order. -/
def fragment (fileAlias : Text) (parts : Dict Text) (name description body : Text) :
    Except Error Fragment :=
  let source := inlineParts parts body
  match Template.parse source with
  | .ok template => .ok ⟨fileAlias, name, source, description, template⟩
  | .error e => .error (.badFragment (fileAlias ++ '.' :: name) e)

/-- Makes fragments of all bodies, in the order of their names. -/
def makeFragments (fileAlias : Text) (parts : Dict Text) :
    List (Text × Text × Text) → Except Error (List (Text × Fragment))
  | [] => .ok []
  | (name, description, body) :: rest => do
    let f ← fragment fileAlias parts name description body
    let more ← makeFragments fileAlias parts rest
    return (name, f) :: more

/-- Reads the text of a file. -/
def ofText (fileAlias text terminator : Text) : Except Error SqlFile := do
  let d ← Draft.lines fileAlias terminator .empty text.lines
  let d ← d.close fileAlias
  let fragments ← makeFragments fileAlias d.parts d.fragments.entries
  return ⟨fileAlias, [], none, .ofList fragments, d.parts⟩

/-- Reads a file. -/
def load (fs : FileSystem) (fileAlias : Text) (path : Path) (terminator : Text) :
    Except Error SqlFile := do
  match fs.file? path with
  | none => .error (.noFile fileAlias path)
  | some f =>
    let text ← fs.read path
    let file ← ofText fileAlias text terminator
    return { file with path, modified := some f.modified }

/-- Whether the file has changed or is gone since it was read. -/
def isStale (fs : FileSystem) (file : SqlFile) : Bool := fs.modified? file.path != file.modified

end SqlFile

end SqlTemplate
