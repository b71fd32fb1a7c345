import SqlTemplate.Args
import SqlTemplate.Literal
import SqlTemplate.Name
import SqlTemplate.Segment

/-!
Placeholders: a name in braces behind a dollar sign, for text that is put into the SQL itself.  A
value is put in as a literal, or as it stands where an exclamation mark precedes the name.
-/
namespace SqlTemplate

/-- What may stand in front of a placeholder's name. -/
inductive Mark where
  | bare
  | colon
  | exclamation
  deriving DecidableEq, Repr

namespace Mark

def text : Mark → Text
  | bare => []
  | colon => [':']
  | exclamation => ['!']

/-- The mark that a text starts with, and what follows it. -/
def read : Text → Mark × Text
  | ':' :: cs => (colon, cs)
  | '!' :: cs => (exclamation, cs)
  | cs => (bare, cs)

end Mark

structure Placeholder where
  mark : Mark
  name : Text
  deriving DecidableEq, Repr

namespace Placeholder

/-- The placeholder that a text starts with, and what follows it. -/
def read? : Text → Option (Placeholder × Text)
  | '$' :: '{' :: cs =>
    let (mark, cs) := Mark.read (Text.skipBlanks cs)
    match Name.read? (Text.skipBlanks cs) with
    | some (name, cs) =>
      match Text.skipBlanks cs with
      | '}' :: rest => some (⟨mark, name⟩, rest)
      | _ => none
    | none => none
  | _ => none

theorem length_read_le (cs : Text) : (Mark.read cs).2.length ≤ cs.length := by
  unfold Mark.read
  split <;> simp

theorem length_lt_of_read? {cs rest : Text} {p : Placeholder} (h : read? cs = some (p, rest)) :
    rest.length < cs.length := by
  unfold read? at h
  split at h
  · rename_i cs
    dsimp only at h
    split at h
    · rename_i name tail hname
      split at h
      · rename_i rest' hrest
        obtain ⟨-, rfl⟩ := Prod.mk.inj (Option.some.inj h)
        have h1 := Text.length_skipBlanks_le cs
        have h2 := length_read_le (Text.skipBlanks cs)
        have h3 := Text.length_skipBlanks_le (Mark.read (Text.skipBlanks cs)).2
        have h4 := Name.length_lt_of_read? hname
        have h5 := Text.length_skipBlanks_le tail
        rw [hrest] at h5
        simp only [List.length_cons] at h5 ⊢
        omega
      · simp at h
    · simp at h
  · simp at h

/-- A plain text as a sequence of placeholders, each with the text it was written as, and single
characters. -/
inductive Piece where
  | char (c : Char)
  | placeholder (written : Text) (p : Placeholder)
  deriving DecidableEq, Repr

/-- Splits a plain text at its placeholders. -/
def split (cs : Text) : List Piece :=
  match h : read? cs with
  | some (p, rest) =>
    have := length_lt_of_read? h
    .placeholder (cs.take (cs.length - rest.length)) p :: split rest
  | none =>
    match cs with
    | [] => []
    | c :: rest => .char c :: split rest
termination_by cs.length

/-- Replaces the placeholders that `f` has a text for and keeps the others as they are. -/
def fill (f : Placeholder → Option Text) (cs : Text) : Text :=
  (split cs).flatMap fun
    | .char c => [c]
    | .placeholder written p => (f p).getD written

/-- How often a text is scanned anew for placeholders that came from a replacement. -/
def rounds : Nat := 8

/-- Applies `f` up to `n` times, until nothing changes. -/
def settle (f : Text → Text) : Nat → Text → Text
  | 0, cs => cs
  | n + 1, cs => if f cs = cs then cs else settle f n (f cs)

/-- The text of a placeholder: its argument as a literal or verbatim, or else a constant, which is
SQL text and always verbatim. -/
def resolve (args : Args) (constants : Dict Text) (p : Placeholder) : Option Text :=
  match args.lookup? p.name with
  | some v => some (if p.mark = .exclamation then v.verbatim else v.literal)
  | none => constants.get? p.name

/-- Replaces what can be resolved outside inert segments, and does so again to the result. -/
def expand (args : Args) (constants : Dict Text) (sql : Text) : Text :=
  settle (overPlain (fill (resolve args constants))) rounds sql

/-- The names of the placeholders outside inert segments. -/
def names (sql : Text) : List Text :=
  (Segment.plainTexts (segments sql)).flatMap fun t =>
    (split t).filterMap fun
      | .char _ => none
      | .placeholder _ p => some p.name

end Placeholder

end SqlTemplate
