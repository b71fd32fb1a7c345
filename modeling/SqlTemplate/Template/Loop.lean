import SqlTemplate.Directive

/-!
The headers of loops: the variable for the item and perhaps one for its position, the list, and
optionally the text between elements and a condition on them.
-/
namespace SqlTemplate

structure LoopHeader where
  item : Text
  index : Option Text
  source : Text
  delimiter : Text
  filter : Option Condition
  deriving Repr

namespace LoopHeader

def defaultDelimiter : Text := ", ".toList

/-- ASCII letters and the underscore, and the two other characters that are an ASCII letter up to
case. -/
def isStart (c : Char) : Bool := c.isAlpha || c == '_' || c == '\u017f' || c == '\u212a'

/-- A name that a text starts with, of word characters of every script, and what follows it. -/
def name? : Text → Option (Text × Text)
  | [] => none
  | c :: cs =>
    if isStart c then some (c :: cs.takeWhile Unicode.isWord, cs.dropWhile Unicode.isWord) else none

/-- The segments of word characters that a text starts with, each with a dot in front, and what
follows them. -/
def path (cs : Text) : Text × Text :=
  match cs with
  | '.' :: rest =>
    if (rest.takeWhile Unicode.isWord).isEmpty then ([], cs)
    else
      let (more, left) := path (rest.dropWhile Unicode.isWord)
      ('.' :: rest.takeWhile Unicode.isWord ++ more, left)
  | _ => ([], cs)
termination_by cs.length
decreasing_by exact Nat.lt_succ_of_le (List.dropWhile_sublist _).length_le

/-- Drops at least one blank. -/
def blanks? : Text → Option Text
  | [] => none
  | c :: cs => if Unicode.isBlank c then some (Text.skipBlanks cs) else none

/-- What follows a word with blanks before and behind it. -/
def word? (w : String) (cs : Text) : Option Text := do
  blanks? (← Text.dropWord? w.toList (← blanks? cs))

/-- The variable behind a comma, if there is one. -/
def readIndex (cs : Text) : Option Text × Text :=
  match Text.skipBlanks cs with
  | ',' :: rest =>
    match name? (Text.skipBlanks rest) with
    | some (name, rest) => (some name, rest)
    | none => (none, cs)
  | _ => (none, cs)

/-- Line ends and tabs in a delimiter are written with a backslash. -/
def unescape : Text → Text
  | '\x5c' :: 'n' :: cs => '\n' :: unescape cs
  | '\x5c' :: 't' :: cs => '\t' :: unescape cs
  | c :: cs => c :: unescape cs
  | [] => []

/-- The delimiter in single quotes behind its word, or else the default. -/
def readDelimiter (cs : Text) : Text × Text :=
  match word? "delimiter" cs with
  | some ('\x27' :: rest) =>
    match Condition.takeString '\x27' rest with
    | some (s, rest) => (unescape s, rest)
    | none => (defaultDelimiter, cs)
  | _ => (defaultDelimiter, cs)

/-- The text of the condition behind its word, if the header has one; nothing but it may follow. -/
def readFilter? (cs : Text) : Option (Option Text) :=
  if cs.isBlank then some none
  else
    match word? "filter" cs with
    | some rest => if rest.isBlank then none else some (some (Text.trimEnd rest))
    | none => none

/-- A header whose filter is still a text. -/
def read? (cs : Text) : Option (LoopHeader × Option Text) := do
  let (item, cs) ← name? cs
  let (index, cs) := readIndex cs
  let ':' :: cs ← word? "of" cs | none
  let (name, cs) ← name? cs
  let (more, cs) := path cs
  let (delimiter, cs) := readDelimiter cs
  let filter ← readFilter? cs
  return (⟨item, index, name ++ more, delimiter, none⟩, filter)

/-- The header of a loop directive. -/
def ofText (rest : Text) (line : Nat) : Except Directive.Fault LoopHeader := do
  match read? rest with
  | none => .error ⟨line, .badLoop rest⟩
  | some (header, none) => .ok header
  | some (header, some source) =>
    let filter ← Directive.condition source line
    .ok { header with filter := some filter }

/-- The variables that a loop binds. -/
def vars (header : LoopHeader) : List Text := header.item :: header.index.toList

end LoopHeader

end SqlTemplate
