import SqlTemplate.Hex
import SqlTemplate.Unicode.CategoryTable
import SqlTemplate.Unicode.PropertyTable
import SqlTemplate.Unicode.ScriptTable

/-!
Sets of code points by name: properties, general categories and scripts.
-/
namespace SqlTemplate.Unicode

/-- The code points in some of the ranges, or those in none of them. -/
structure CodePoints where
  ranges : List (Nat × Nat)
  complement : Bool

/-- Ranges written in hexadecimal, with a hyphen within and a blank between them. -/
def rangesOfLine (s : String) : List (Nat × Nat) :=
  (Text.splitAt ' ' s.toList).filterMap fun r =>
    match Text.splitAt '-' r with
    | [a] => (Hex.number? a).map fun n => (n, n)
    | [a, b] => do return (← Hex.number? a, ← Hex.number? b)
    | _ => none

/-- Names are compared without regard to case, blanks, hyphens, underscores and a leading `is`. -/
def plainName (name : Text) : Text :=
  let t := Text.asciiLower (name.filter fun c => c.toNat < 128 && !" _-".toList.contains c)
  match t with
  | ['i', 's', 'c'] => t
  | 'i' :: 's' :: rest => rest
  | _ => t

def rangesOfLines (lines : List String) : List (Nat × Nat) := lines.flatMap rangesOfLine

def find? (table : List (List String × List String)) (name : Text) : Option (List (Nat × Nat)) :=
  (table.find? fun entry => entry.1.any (·.toList = name)).map fun entry => rangesOfLines entry.2

/-- The ranges of all categories whose short name is among `names`. -/
def unite (names : List String) : List (Nat × Nat) :=
  names.flatMap fun name => (find? categories name.toList).getD []

/-- The short names of the categories that a name stands for. -/
def members? (name : String) : Option (List String) :=
  match name with
  | "l" | "letter" => some ["lu", "ll", "lt", "lm", "lo"]
  | "lc" | "casedletter" => some ["lu", "ll", "lt"]
  | "m" | "mark" | "combiningmark" => some ["mn", "mc", "me"]
  | "n" | "number" => some ["nd", "nl", "no"]
  | "p" | "punctuation" | "punct" => some ["pc", "pd", "ps", "pe", "pi", "pf", "po"]
  | "s" | "symbol" => some ["sm", "sc", "sk", "so"]
  | "z" | "separator" => some ["zs", "zl", "zp"]
  | _ => none

/-- The set that a general category names, given in plain form. -/
def category? (name : Text) : Option CodePoints :=
  let assigned := categories.flatMap fun entry => rangesOfLines entry.2
  match name.str with
  | "any" => some ⟨[], true⟩
  | "assigned" => some ⟨assigned, false⟩
  | "ascii" => some ⟨[(0, 127)], false⟩
  | "cn" | "unassigned" => some ⟨assigned, true⟩
  | "c" | "other" =>
    some ⟨unite ["lu", "ll", "lt", "lm", "lo", "mn", "mc", "me", "nd", "nl", "no", "pc", "pd", "ps",
      "pe", "pi", "pf", "po", "sm", "sc", "sk", "so", "zs", "zl", "zp"], true⟩
  | "cs" | "surrogate" => some ⟨[], false⟩
  | s =>
    match members? s with
    | some names => some ⟨unite names, false⟩
    | none => (find? categories name).map (⟨·, false⟩)

def script? (name : Text) : Option CodePoints := (find? scripts name).map (⟨·, false⟩)

/-- The set of a single name: a property, a category or a script.  Three names of categories are
short names of other properties as well and stand for the category. -/
def named? (name : Text) : Option CodePoints :=
  let name := plainName name
  let property :=
    if ["cf", "sc", "lc"].any (·.toList = name) then none
    else (find? properties name).map (⟨·, false⟩)
  property.orElse fun _ => (category? name).orElse fun _ => script? name

/-- The set of a property with a value. -/
def valued? (property value : Text) : Option CodePoints :=
  match (plainName property).str with
  | "gc" | "generalcategory" => category? (plainName value)
  | "sc" | "script" => script? (plainName value)
  | "scx" | "scriptextensions" => script? (plainName value)
  | _ => none

end SqlTemplate.Unicode
