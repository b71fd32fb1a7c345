import SqlTemplate.Value

/-!
Named arguments, and names with dots that reach into nested values.
-/
namespace SqlTemplate

/-- Arguments by name. -/
abbrev Args := Dict Value

namespace Value

/-- An array index: decimal digits, with or without a plus sign in front. -/
def index? (cs : Text) : Option Nat :=
  let digits := match cs with
    | '+' :: rest => rest
    | _ => cs
  if digits.isEmpty || !digits.all Char.isDigit then none else some (natOfDigits digits)

/-- The member of a container under one segment of a path. -/
def member? (segment : Text) : Value → Option Value
  | object fields => Entries.get? segment fields
  | array items => (index? segment).bind fun i => items[i]?
  | _ => none

/-- Follows the segments between the dots of `path`; empty segments count for nothing. -/
def walk? (v : Value) (path : Text) : Option Value :=
  ((path.splitAt '.').filter (!·.isEmpty)).foldlM (fun v segment => v.member? segment) v

end Value

/-- The argument of exactly this name, or else the place that the name's path leads to from the
argument named before the first dot. -/
def Args.lookup? (args : Args) (name : Text) : Option Value :=
  match args.get? name with
  | some v => some v
  | none => do
    let (head, rest) ← name.cut? '.'
    (← args.get? head).walk? rest

/-- Absent arguments are blank too. -/
def isBlank? : Option Value → Bool
  | none => true
  | some v => v.isBlank

end SqlTemplate
