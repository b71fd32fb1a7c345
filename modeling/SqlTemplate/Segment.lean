import SqlTemplate.Name

/-!
The lexical segments of SQL text.  Quoted strings, quoted identifiers, comments and casts are
inert: nothing in them is ever taken for a parameter or a placeholder.  All other text is plain.
-/
namespace SqlTemplate

inductive Segment where
  | plain (t : Text)
  | inert (t : Text)
  deriving DecidableEq, Repr

namespace Segment

def text : Segment → Text
  | plain t => t
  | inert t => t

/-- The rest of a quoted run behind its opening `mark`, up to the first mark that is not doubled
or to the end of the text, and what follows the run. -/
def quotedRun (mark : Char) : Text → Text × Text
  | [] => ([], [])
  | [c] => ([c], [])
  | c :: d :: cs =>
    if c = mark then
      if d = mark then
        let (run, rest) := quotedRun mark cs
        (c :: d :: run, rest)
      else ([c], d :: cs)
    else
      let (run, rest) := quotedRun mark (d :: cs)
      (c :: run, rest)

/-- The rest of a block comment inside `depth` openings, up to where they are all closed. -/
def blockRun (depth : Nat) : Text → Text × Text
  | [] => ([], [])
  | [c] => ([c], [])
  | c :: d :: cs =>
    if c = '/' ∧ d = '*' then
      let (run, rest) := blockRun (depth + 1) cs
      (c :: d :: run, rest)
    else if c = '*' ∧ d = '/' then
      if depth ≤ 1 then ([c, d], cs)
      else
        let (run, rest) := blockRun (depth - 1) cs
        (c :: d :: run, rest)
    else
      let (run, rest) := blockRun depth (d :: cs)
      (c :: run, rest)

/-- The inert region that a text starts with, and what follows it. -/
def region? : Text → Option (Text × Text)
  | '\x27' :: cs =>
    let (run, rest) := quotedRun '\x27' cs
    some ('\x27' :: run, rest)
  | '\x22' :: cs =>
    let (run, rest) := quotedRun '\x22' cs
    some ('\x22' :: run, rest)
  | '-' :: '-' :: cs => some ('-' :: '-' :: cs.takeWhile (· != '\n'), cs.dropWhile (· != '\n'))
  | '/' :: '*' :: cs =>
    let (run, rest) := blockRun 1 cs
    some ('/' :: '*' :: run, rest)
  | ':' :: ':' :: c :: cs =>
    if Name.isStart c then
      some (':' :: ':' :: c :: cs.takeWhile Name.isPart, cs.dropWhile Name.isPart)
    else none
  | _ => none

theorem quotedRun_append (mark : Char) (cs : Text) :
    (quotedRun mark cs).1 ++ (quotedRun mark cs).2 = cs := by
  fun_induction quotedRun mark cs <;> simp_all

theorem blockRun_append (depth : Nat) (cs : Text) :
    (blockRun depth cs).1 ++ (blockRun depth cs).2 = cs := by
  fun_induction blockRun depth cs <;> simp_all

/-- A region and what follows it make up the text, and no region is empty. -/
theorem region?_append {cs run rest : Text} (h : region? cs = some (run, rest)) :
    run ++ rest = cs ∧ run ≠ [] := by
  unfold region? at h
  split at h
  · obtain ⟨rfl, rfl⟩ := Prod.mk.inj (Option.some.inj h)
    simp [quotedRun_append]
  · obtain ⟨rfl, rfl⟩ := Prod.mk.inj (Option.some.inj h)
    simp [quotedRun_append]
  · obtain ⟨rfl, rfl⟩ := Prod.mk.inj (Option.some.inj h)
    simp
  · obtain ⟨rfl, rfl⟩ := Prod.mk.inj (Option.some.inj h)
    simp [blockRun_append]
  · split at h
    · obtain ⟨rfl, rfl⟩ := Prod.mk.inj (Option.some.inj h)
      simp
    · simp at h
  · simp at h

theorem length_lt_of_region? {cs run rest : Text} (h : region? cs = some (run, rest)) :
    rest.length < cs.length := by
  obtain ⟨happ, hne⟩ := region?_append h
  have := List.length_pos_iff.2 hne
  have := congrArg List.length happ
  simp only [List.length_append] at this
  omega

/-- Puts a plain character in front of segments. -/
def consPlain (c : Char) : List Segment → List Segment
  | plain t :: rest => plain (c :: t) :: rest
  | rest => plain [c] :: rest

end Segment

/-- The segments of a text, in order. -/
def segments (cs : Text) : List Segment :=
  match h : Segment.region? cs with
  | some (run, rest) =>
    have := Segment.length_lt_of_region? h
    .inert run :: segments rest
  | none =>
    match cs with
    | [] => []
    | c :: rest => Segment.consPlain c (segments rest)
termination_by cs.length

namespace Segment

/-- The text that segments make up. -/
def unsplit (ss : List Segment) : Text := ss.flatMap text

/-- Applies a function to each plain segment and leaves the inert ones. -/
def mapPlain (f : Text → Text) (ss : List Segment) : Text :=
  ss.flatMap fun
    | plain t => f t
    | inert t => t

/-- The plain segments' texts. -/
def plainTexts (ss : List Segment) : List Text :=
  ss.filterMap fun
    | plain t => some t
    | inert _ => none

end Segment

/-- Applies a function to the plain segments of a text. -/
def overPlain (f : Text → Text) (cs : Text) : Text := Segment.mapPlain f (segments cs)

end SqlTemplate
