import SqlTemplate.Unicode.Case

/-!
Search patterns.  A pattern is matched by tracking the set of positions that it can end at, so
the answer to a search does not depend on which of several matches is preferred.
-/
namespace SqlTemplate

/-- A set of characters. -/
inductive CharSet where
  | ranges (rs : List (Nat × Nat))
  | digit
  | blank
  | word
  | union (a b : CharSet)
  | inter (a b : CharSet)
  | compl (a : CharSet)
  | caseless (a : CharSet)
  | asciiCaseless (a : CharSet)
  deriving Repr

namespace CharSet

def contains : CharSet → Char → Bool
  | ranges rs, c => Unicode.inRanges rs c.toNat
  | digit, c => Unicode.isDecimal c
  | blank, c => Unicode.isBlank c
  | word, c => Unicode.isWord c
  | union a b, c => a.contains c || b.contains c
  | inter a b, c => a.contains c && b.contains c
  | compl a, c => !a.contains c
  | caseless a, c => a.contains c || (Unicode.caseVariants c).any a.contains
  | asciiCaseless a, c => a.contains c || a.contains c.toLower || a.contains c.toUpper

def nothing : CharSet := ranges []

def single (c : Char) : CharSet := ranges [(c.toNat, c.toNat)]

def unions (sets : List CharSet) : CharSet := sets.foldl union nothing

end CharSet

/-- A place between two characters, or at an end of the text.  Words are runs of word characters
of all scripts, or of ASCII alone. -/
inductive Anchor where
  | start
  | stop
  | lineStart
  | lineStop
  | anyLineStart
  | anyLineStop
  | boundary (ascii : Bool)
  | inside (ascii : Bool)
  | wordStart (ascii : Bool)
  | wordStop (ascii : Bool)
  | noWordBefore (ascii : Bool)
  | noWordAfter (ascii : Bool)
  deriving DecidableEq, Repr

namespace Anchor

def isWord (ascii : Bool) (c : Option Char) : Bool :=
  c.any fun c => if ascii then c.isAlphanum || c == '_' else Unicode.isWord c

/-- Whether the anchor holds between two characters; none is an end of the text. -/
def holds (a : Anchor) (before after : Option Char) : Bool :=
  match a with
  | start => before.isNone
  | stop => after.isNone
  | lineStart => before.isNone || before == some '\n'
  | lineStop => after.isNone || after == some '\n'
  | anyLineStart =>
    before.isNone || before == some '\n' || (before == some '\r' && after != some '\n')
  | anyLineStop =>
    after.isNone || after == some '\r' || (after == some '\n' && before != some '\r')
  | boundary ascii => isWord ascii before != isWord ascii after
  | inside ascii => isWord ascii before == isWord ascii after
  | wordStart ascii => !isWord ascii before && isWord ascii after
  | wordStop ascii => isWord ascii before && !isWord ascii after
  | noWordBefore ascii => !isWord ascii before
  | noWordAfter ascii => !isWord ascii after

end Anchor

inductive Pattern where
  | empty
  | set (s : CharSet)
  | anchor (a : Anchor)
  | seq (p q : Pattern)
  | alt (p q : Pattern)
  | repeated (p : Pattern) (least : Nat) (most : Option Nat)
  deriving Repr

namespace Pattern

/-- Positions in a text, without repetitions. -/
abbrev Positions := List Nat

def unite (a b : Positions) : Positions := a ++ b.filter (!a.contains ·)

/-- Applies `step` exactly `n` times. -/
def stepN (step : Positions → Positions) : Nat → Positions → Positions
  | 0, ps => ps
  | n + 1, ps => stepN step n (step ps)

/-- The positions that at most `n` steps lead to from `frontier`, `seen` included. -/
def spread (step : Positions → Positions) : Nat → Positions → Positions → Positions
  | 0, _, seen => seen
  | n + 1, frontier, seen =>
    let new := (step frontier).filter (!seen.contains ·)
    if new.isEmpty then seen else spread step n new (seen ++ new)

/-- Where matches that begin at one of the positions `ps` can end. -/
def ends (text : Array Char) : Pattern → Positions → Positions
  | empty, ps => ps
  | set s, ps => (ps.filter fun i => text[i]?.any s.contains).map (· + 1)
  | anchor a, ps =>
    ps.filter fun i => a.holds (if i = 0 then none else text[i - 1]?) text[i]?
  | seq p q, ps => q.ends text (p.ends text ps)
  | alt p q, ps => unite (p.ends text ps) (q.ends text ps)
  | repeated p least most, ps =>
    let first := stepN (p.ends text) least ps
    let more := match most with
      | some n => n - least
      | none => text.size + 1
    spread (p.ends text) more first first

/-- Whether the pattern matches anywhere in a text. -/
def occursIn (p : Pattern) (t : Text) : Bool :=
  !(p.ends t.toArray (List.range (t.length + 1))).isEmpty

def sequence : List Pattern → Pattern
  | [] => empty
  | [p] => p
  | p :: ps => seq p (sequence ps)

end Pattern

end SqlTemplate
