import SqlTemplate.Text

/-!
Documents of keys and values in TOML, as far as settings need them: strings, truth values, and
tables.  Whether a table may be added to depends on how it came about.
-/
namespace SqlTemplate

/-- How a table came about: on the way to a header, by its own header, on the way of a dotted key,
or in braces. -/
inductive Toml.Origin where
  | implicit
  | header
  | dotted
  | inline
  deriving DecidableEq, Repr

inductive Toml where
  | string (s : Text)
  | boolean (b : Bool)
  | table (origin : Toml.Origin) (entries : List (Text × Toml))
  deriving Repr

namespace Toml

/-- Keys with values, in the order of the document. -/
abbrev Entries := List (Text × Toml)

def find? (key : Text) (es : Entries) : Option Toml := es.lookup key

/-- Replaces the value of a key. -/
def replace (key : Text) (v : Toml) (es : Entries) : Entries :=
  es.map fun e => if e.1 = key then (key, v) else e

/-- Enters a value under a dotted key.  The key must be new, and the tables on the way must be
open to dotted keys. -/
def assign (v : Toml) : List Text → Entries → Option Entries
  | [], _ => none
  | [key], es => if (find? key es).isSome then none else some (es ++ [(key, v)])
  | key :: rest, es =>
    match find? key es with
    | none => (assign v rest []).map fun inner => es ++ [(key, table .dotted inner)]
    | some (table origin inner) =>
      if origin = .implicit ∨ origin = .dotted then
        (assign v rest inner).map fun inner => replace key (table origin inner) es
      else none
    | some _ => none

/-- Opens the table of a header.  It must be new, or have come about on the way to another one. -/
def define : List Text → Entries → Option Entries
  | [], _ => none
  | [key], es =>
    match find? key es with
    | none => some (es ++ [(key, table .header [])])
    | some (table .implicit inner) => some (replace key (table .header inner) es)
    | some _ => none
  | key :: rest, es =>
    match find? key es with
    | none => (define rest []).map fun inner => es ++ [(key, table .implicit inner)]
    | some (table origin inner) =>
      if origin = .inline then none
      else (define rest inner).map fun inner => replace key (table origin inner) es
    | some _ => none

/-- Changes the entries of the table at a path of headers. -/
def change (f : Entries → Option Entries) : List Text → Entries → Option Entries
  | [], es => f es
  | key :: rest, es =>
    match find? key es with
    | some (table origin inner) =>
      (change f rest inner).map fun inner => replace key (table origin inner) es
    | _ => none

end Toml

end SqlTemplate
