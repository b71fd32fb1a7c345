import SqlTemplate.Settings
import SqlTemplate.Toml.Reader

/-!
Reading settings from TOML.  What is not given has its default; unknown keys and values of the
wrong type are refused.
-/
namespace SqlTemplate.Settings

/-- A table of strings. -/
def texts? (es : Toml.Entries) : Option (Dict Text) := do
  let pairs ← es.mapM fun e =>
    match e.2 with
    | .string s => some (e.1, s)
    | _ => none
  return .ofList pairs

/-- The settings with one more entry. -/
def enter? (s : Settings) (key : Text) (v : Toml) : Option Settings :=
  match key.str, v with
  | "files", .table _ es => (texts? es).map fun files => { s with files }
  | "constants", .table _ es => (texts? es).map fun constants => { s with constants }
  | "charset", .string charset => some { s with charset }
  | "named_param_prefix", .string [sigil] => some { s with sigil }
  | "delimiter", .string terminator => some { s with terminator }
  | "check_modified", .boolean checkModified => some { s with checkModified }
  | "strict_args", .boolean strict => some { s with strict }
  | _, _ => none

/-- The settings that a document gives. -/
def ofToml (t : Text) : Except Error Settings :=
  match (Toml.ofText? t).bind fun es => es.foldlM (fun s e => s.enter? e.1 e.2) default with
  | none => .error .settingsFormat
  | some s => do
    s.validate
    return s

/-- Reads settings from a file.  Relative paths in them start at the directory of that file. -/
def load (fs : FileSystem) (path : Path) : Except Error Settings := do
  let s ← ofToml (← fs.read path)
  return s.relativeTo path.parent

end SqlTemplate.Settings
