import SqlTemplate.Segment
import SqlTemplate.Unicode.Class

/-!
Cleaning up after clauses that were left out: a `where` with nothing behind it, with a connective
directly behind it or with a comma in front of it.  Each plain segment is looked at by itself, and
the words are found in any case of their letters.
-/
namespace SqlTemplate

namespace Cleanup

/-- What follows `word` in any case, if the word ends there. -/
def dropKeyword? (word : String) (cs : Text) : Option Text := do
  let rest ← Text.dropWord? word.toList cs
  if rest.head?.any Unicode.isWord then none else some rest

/-- Drops at least one blank. -/
def blanks? : Text → Option Text
  | [] => none
  | c :: cs => if Unicode.isBlank c then some (Text.skipBlanks cs) else none

/-- Drops each comma that has only blanks between it and a `where`. -/
def dropCommas : Text → Text
  | [] => []
  | c :: cs =>
    if c = ',' && (dropKeyword? "where" (Text.skipBlanks cs)).isSome then dropCommas cs
    else c :: dropCommas cs

/-- What follows blanks, a connective and the blanks behind it. -/
def connective? (cs : Text) : Option Text := do
  let cs ← blanks? cs
  let rest ← (dropKeyword? "and" cs).orElse fun _ => dropKeyword? "or" cs
  return Text.skipBlanks rest

/-- Whether a text begins with `word` and `by`. -/
def startsOrdering (word : String) (cs : Text) : Bool :=
  ((Text.dropWord? word.toList cs).bind blanks?).any fun rest => (dropKeyword? "by" rest).isSome

/-- Whether a text begins with a closing parenthesis or with a clause that stands behind the
conditions of a query. -/
def startsClause (cs : Text) : Bool :=
  startsOrdering "order" cs || startsOrdering "group" cs || (dropKeyword? "limit" cs).isSome ||
    (dropKeyword? "union" cs).isSome || Text.startsWith [')'] cs

/-- What takes the place of the start of a text, and how many characters it takes the place of. -/
abbrev Edit := Text → Option (Text × Nat)

/-- Replaces what `edit` finds at the starts of words, from left to right.  `last` is the
character in front of the text and `taken` the number of its characters that are replaced
already. -/
def editWords (edit : Edit) : Option Char → Nat → Text → Text
  | _, _, [] => []
  | _, taken + 1, c :: cs => editWords edit (some c) taken cs
  | last, 0, c :: cs =>
    match if last.any Unicode.isWord then none else edit (c :: cs) with
    | some (t, n) => t ++ editWords edit (some c) (n - 1) cs
    | none => c :: editWords edit (some c) 0 cs

/-- A `where` with a connective behind it loses the connective. -/
def whereConnective : Edit := fun cs => do
  let rest ← connective? (← Text.dropWord? "where".toList cs)
  return (cs.take 5 ++ [' '], cs.length - rest.length)

/-- A `where` with a clause or a parenthesis behind it is dropped. -/
def whereClause : Edit := fun cs => do
  let rest ← blanks? (← Text.dropWord? "where".toList cs)
  if startsClause rest then some ([], cs.length - rest.length) else none

/-- Cleans up a plain text. -/
def plain (t : Text) : Text :=
  editWords whereClause none 0 (editWords whereConnective none 0 (dropCommas t))

/-- Drops a `where` at the end of a text and the blanks in front of it. -/
def dropLastWhere (t : Text) : Text :=
  let body := t.reverse.dropWhile Unicode.isBlank
  match Text.dropWord? "where".toList.reverse body with
  | some before =>
    if before.head?.any Unicode.isWord then t
    else (before.dropWhile Unicode.isBlank).reverse ++ t.drop body.length
  | none => t

/-- Whether a segment is more than blanks or a comment. -/
def counts : Segment → Bool
  | .plain t => !t.isBlank
  | .inert t => !(Text.startsWith ['-', '-'] t || Text.startsWith ['/', '*'] t)

/-- Cleans up the plain ones of the segments, and the end of the last one that counts. -/
def cleanSegments : List Segment → Text
  | [] => []
  | .inert t :: ss => t ++ cleanSegments ss
  | .plain t :: ss =>
    let last := !t.isBlank && !ss.any counts
    (if last then dropLastWhere (plain t) else plain t) ++ cleanSegments ss

end Cleanup

/-- Cleans up SQL text outside its inert segments. -/
def cleanup (sql : Text) : Text := Cleanup.cleanSegments (segments sql)

end SqlTemplate
