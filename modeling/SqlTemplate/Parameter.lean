import SqlTemplate.Placeholder

/-!
Named parameters: a sigil, by default a colon, with a name directly behind it.  A sigil that
follows another one introduces nothing, and neither does one inside a placeholder.
-/
namespace SqlTemplate

/-- Characters that can introduce parameters: no white space, and none that names can hold. -/
def isSigil (c : Char) : Bool := !(Unicode.isBlank c || Unicode.isAlphanumeric c || c == '_')

namespace Parameter

inductive Piece where
  | text (t : Text)
  | parameter (name : Text)
  deriving DecidableEq, Repr

/-- Splits a plain text at its parameters.  `last` is the character in front of the text. -/
def splitPlain (sigil : Char) (last : Option Char) (cs : Text) : List Piece :=
  match h : Placeholder.read? cs with
  | some (_, rest) =>
    have := Placeholder.length_lt_of_read? h
    .text (cs.take (cs.length - rest.length)) :: splitPlain sigil (some '}') rest
  | none =>
    match cs with
    | [] => []
    | c :: rest =>
      if c = sigil then
        match h : Name.read? rest with
        | some (name, rest') =>
          have := Name.length_lt_of_read? h
          let piece := if last = some sigil then .text (c :: name) else .parameter name
          piece :: splitPlain sigil name.getLast? rest'
        | none => .text [c] :: splitPlain sigil (some c) rest
      else .text [c] :: splitPlain sigil (some c) rest
termination_by cs.length
decreasing_by
  · assumption
  · exact Nat.lt_succ_of_lt ‹_›
  · simp
  · simp

/-- Splits SQL text at the parameters outside its inert segments. -/
def split (sigil : Char) (sql : Text) : List Piece :=
  (segments sql).flatMap fun
    | .plain t => splitPlain sigil none t
    | .inert t => [.text t]

/-- The names of the parameters, in order and with repetitions. -/
def names (sigil : Char) (sql : Text) : List Text :=
  (split sigil sql).filterMap fun
    | .text _ => none
    | .parameter name => some name

end Parameter

end SqlTemplate
