import SqlTemplate.Error
import SqlTemplate.FileSystem
import SqlTemplate.Parameter

/-!
The settings of a catalog of SQL files.
-/
namespace SqlTemplate

structure Settings where
  /-- The paths of the files by their aliases. -/
  files : Dict Path
  /-- The texts of placeholders that no argument fills. -/
  constants : Dict Text
  charset : Text
  sigil : Char
  /-- What ends a fragment. -/
  terminator : Text
  /-- Whether a file is read again when it has changed. -/
  checkModified : Bool
  /-- Whether absent arguments are errors. -/
  strict : Bool

namespace Settings

def default : Settings where
  files := ∅
  constants := ∅
  charset := "UTF-8".toList
  sigil := ':'
  terminator := [';']
  checkModified := false
  strict := true

def isUtf8 (charset : Text) : Bool :=
  charset.sameWord "UTF-8".toList || charset.sameWord "UTF8".toList

/-- Aliases have no dots, which part them from the names of fragments. -/
def isAlias (name : Text) : Bool := !name.isEmpty && !name.contains '.'

/-- Settings that a catalog can work with. -/
def validate (s : Settings) : Except Error Unit :=
  if !isSigil s.sigil then .error (.settings (.sigil s.sigil))
  else if s.terminator.isBlank then .error (.settings .emptyTerminator)
  else if !isUtf8 s.charset then .error (.settings (.charset s.charset))
  else
    match s.files.keys.find? (!isAlias ·) with
    | some name => .error (.settings (.fileAlias name))
    | none => .ok ()

/-- The same settings with relative paths as seen from a directory. -/
def relativeTo (s : Settings) (directory : Path) : Settings :=
  { s with files := s.files.map fun _ path => directory.join path }

end Settings

end SqlTemplate
