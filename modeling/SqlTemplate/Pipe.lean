import SqlTemplate.Unicode.Case
import SqlTemplate.Text.Quoted
import SqlTemplate.Value.Json

/-!
Pipes: named functions from values to values, applied to the arguments in conditions.
-/
namespace SqlTemplate

abbrev Pipe := Value → Value

/-- Pipes by name. -/
abbrev Pipes := Dict Pipe

namespace Pipe

/-- The number of characters, items or fields; null has none. -/
def length : Pipe
  | .null => .ofNat 0
  | .string s => .ofNat s.length
  | .array items => .ofNat items.length
  | .object fields => .ofNat fields.length
  | v => .ofNat v.display.length

/-- Changes a string and leaves every other value alone. -/
def onString (f : Text → Text) : Pipe
  | .string s => .string (f s)
  | v => v

end Pipe

namespace Pipes

def builtin : Pipes :=
  .ofList [("length".toList, Pipe.length), ("upper".toList, Pipe.onString Text.upper),
    ("lower".toList, Pipe.onString Text.lower), ("trim".toList, Pipe.onString Text.trim)]

/-- The names in order, as messages show them. -/
def describe (pipes : Pipes) : String :=
  "Pipes \x7b names: [" ++ String.intercalate ", " (pipes.keys.map Text.quoted) ++ "] \x7d"

end Pipes

end SqlTemplate
