import SqlTemplate.Directive

/-!
Everything that can go wrong, and the messages that say so.
-/
namespace SqlTemplate

/-- Why a file could not be read. -/
inductive ReadFailure where
  | missing
  | directory
  | notUtf8
  deriving DecidableEq, Repr

/-- The two kinds of named blocks in a file. -/
inductive BlockKind where
  | fragment
  | part
  deriving DecidableEq, Repr

/-- What makes settings inconsistent. -/
inductive SettingsProblem where
  | sigil (c : Char)
  | emptyTerminator
  | charset (name : Text)
  | fileAlias (name : Text)
  deriving DecidableEq, Repr

inductive Error where
  | unboundParameter (name : Text)
  | missingArgument (name : Text)
  | duplicateName (kind : BlockKind) (fileAlias name : Text)
  | directive (fault : Directive.Fault)
  | condition (source : Text) (p : Condition.Problem)
  | emptyLoop (source : Text)
  | unknownFragment (name : Text)
  | noFile (fileAlias path : Text)
  | unreadable (path : Text) (failure : ReadFailure)
  | badFragment (name : Text) (cause : Error)
  | settings (p : SettingsProblem)
  | settingsFormat
  | noRow
  deriving DecidableEq, Repr

namespace ReadFailure

def message : ReadFailure → String
  | missing => "No such file or directory (os error 2)"
  | directory => "Is a directory (os error 21)"
  | notUtf8 => "stream did not contain valid UTF-8"

end ReadFailure

namespace BlockKind

def label : BlockKind → String
  | fragment => "fragment"
  | part => "part"

end BlockKind

namespace SettingsProblem

def message : SettingsProblem → String
  | sigil c => "invalid named parameter prefix '" ++ c.toString ++ "'"
  | emptyTerminator => "fragment delimiter must not be empty"
  | charset name => "unsupported charset '" ++ name.str ++ "', only UTF-8 is supported"
  | fileAlias name => "invalid file alias '" ++ name.str ++ "'"

end SettingsProblem

namespace Error

def message : Error → String
  | unboundParameter name =>
    "Placeholder '" ++ name.str ++ "' was not bound by the binder function"
  | missingArgument name => "Argument '" ++ name.str ++ "' is required but was not supplied"
  | duplicateName kind fileAlias name =>
    "Duplicate " ++ kind.label ++ " name '" ++ name.str ++ "' in SQL file '" ++ fileAlias.str ++ "'"
  | directive fault =>
    "Dynamic SQL error at line " ++ toString fault.line ++ ": " ++ fault.problem.message
  | condition source p => Condition.message source p
  | emptyLoop source => "Loop source ':" ++ source.str ++ "' resolved to nothing"
  | unknownFragment name => "No SQL fragment named '" ++ name.str ++ "' was found"
  | noFile fileAlias path =>
    "SQL file '" ++ path.str ++ "' of alias '" ++ fileAlias.str ++ "' not found"
  | unreadable path failure => "Failed to read '" ++ path.str ++ "': " ++ failure.message
  | badFragment name cause => "SQL fragment '" ++ name.str ++ "' is invalid: " ++ cause.message
  | settings p => "Invalid configuration: " ++ p.message
  | settingsFormat => "Failed to parse configuration"
  | noRow =>
    "Database error: no rows returned by a query that expected to return at least one row"

end Error

end SqlTemplate
