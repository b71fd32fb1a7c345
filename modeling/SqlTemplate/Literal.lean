import SqlTemplate.Value.Json

/-!
Values as SQL literals.
-/
namespace SqlTemplate

/-- A string literal: single quotes around the text, and those in it doubled. -/
def quoteText (s : Text) : Text := '\x27' :: s.double '\x27' ++ ['\x27']

namespace Value

/-- One literal.  Arrays and objects become string literals of their JSON text. -/
def scalarLiteral : Value → Text
  | string s => quoteText s
  | array items => quoteText (json (array items))
  | object fields => quoteText (json (object fields))
  | v => v.json

/-- A literal, or the literals of an array's items with commas between them. -/
def literal : Value → Text
  | array items => Text.join [',', ' '] (items.map scalarLiteral)
  | v => v.scalarLiteral

/-- The same without any quoting. -/
def verbatim : Value → Text
  | array items => Text.join [',', ' '] (items.map display)
  | v => v.display

end Value

end SqlTemplate
