import SqlTemplate.Text.Quoted
import SqlTemplate.Value

/-!
The tokens of conditions, and what can be wrong with a condition.
-/
namespace SqlTemplate

inductive Comparison where
  | eq
  | ne
  | lt
  | gt
  | le
  | ge
  | found
  | notFound
  deriving DecidableEq, Repr

inductive Token where
  | argument (name : Text)
  | string (s : Text)
  | number (n : Number)
  | word (w : Text)
  | comparison (op : Comparison)
  | and
  | or
  | bang
  | pipe
  | openParen
  | closeParen
  deriving DecidableEq, Repr

def Comparison.label : Comparison → String
  | eq => "Eq"
  | ne => "NotEq"
  | lt => "Lt"
  | gt => "Gt"
  | le => "LtEq"
  | ge => "GtEq"
  | found => "Match"
  | notFound => "NotMatch"

/-- A token as messages show it. -/
def Token.label : Token → String
  | argument name => "Arg(" ++ name.quoted ++ ")"
  | string s => "Str(" ++ s.quoted ++ ")"
  | number n => "Num(Number(" ++ n.text ++ "))"
  | word w => "Word(" ++ w.quoted ++ ")"
  | comparison op => "Op(" ++ op.label ++ ")"
  | and => "And"
  | or => "Or"
  | bang => "Bang"
  | pipe => "Pipe"
  | openParen => "LParen"
  | closeParen => "RParen"

namespace Condition

/-- What makes a condition unreadable, or stops its evaluation. -/
inductive Problem where
  | openReference
  | emptyReference
  | openString (position : Nat)
  | badNumber (digits : Text)
  | unexpectedCharacter (c : Char)
  | unexpectedToken (t : Token)
  | unexpectedEnd
  | missingParenthesis
  | missingPipeName
  | missingNullOrBlank
  | unknownPipe (name : Text)
  | badPattern
  deriving DecidableEq, Repr

def Problem.message : Problem → String
  | openReference => "unterminated '$\x7b'"
  | emptyReference => "empty '$\x7b\x7d' reference"
  | openString position => "unterminated string starting at " ++ toString position
  | badNumber digits => "bad number '" ++ digits.str ++ "'"
  | unexpectedCharacter c => "unexpected character '" ++ c.toString ++ "'"
  | unexpectedToken t => "unexpected " ++ t.label
  | unexpectedEnd => "unexpected end of expression"
  | missingParenthesis => "missing ')'"
  | missingPipeName => "expected pipe name after '|'"
  | missingNullOrBlank => "expected 'null' or 'blank' after 'is'"
  | unknownPipe name => "unknown pipe '" ++ name.str ++ "'"
  | badPattern => "bad pattern"

/-- The message for a condition with its source. -/
def message (source : Text) (p : Problem) : String :=
  "Invalid expression '" ++ source.str ++ "': " ++ p.message

end Condition

end SqlTemplate
