import SqlTemplate.Unicode.CaseTable
import SqlTemplate.Unicode.Class

/-!
Upper and lower case of texts, and equality of characters up to case.
-/
namespace SqlTemplate

namespace Unicode

namespace Shift

def contains (s : Shift) (n : Nat) : Bool :=
  s.first ≤ n && n ≤ s.last && (n - s.first) % s.step == 0

def apply (s : Shift) (n : Nat) : Nat := (n + s.offset).toNat

/-- The code point that the shift takes to `n`, if there is one. -/
def source? (s : Shift) (n : Nat) : Option Nat :=
  let m := (n - s.offset : Int).toNat
  if s.contains m && s.apply m == n then some m else none

end Shift

def shift (shifts : List Shift) (c : Char) : Char :=
  match shifts.find? (·.contains c.toNat) with
  | some s => Char.ofNat (s.apply c.toNat)
  | none => c

def convert (expansions : List (Nat × List Nat)) (shifts : List Shift) (c : Char) : Text :=
  match expansions.lookup c.toNat with
  | some ns => ns.map Char.ofNat
  | none => [shift shifts c]

def upper (c : Char) : Text :=
  if c.toNat < 128 then [c.toUpper] else convert upperExpansions upperShifts c

def lower (c : Char) : Text :=
  if c.toNat < 128 then [c.toLower] else convert lowerExpansions lowerShifts c

def isCased (c : Char) : Bool := inRanges casedRanges c.toNat

def isCaseIgnorable (c : Char) : Bool := inRanges caseIgnorableRanges c.toNat

/-- Whether the first character that counts is a cased one. -/
def casedFirst (cs : Text) : Bool := (cs.dropWhile isCaseIgnorable).head?.any isCased

/-- The one that stands for all characters that differ from `c` in case only. -/
def fold (c : Char) : Char := if c.toNat < 128 then c.toLower else shift foldShifts c

/-- The characters that are `c` up to case, `c` among them. -/
def caseVariants (c : Char) : List Char :=
  fold c :: foldShifts.filterMap fun s => (s.source? (fold c).toNat).map Char.ofNat

end Unicode

namespace Text

def upper (cs : Text) : Text := cs.flatMap Unicode.upper

/-- Lower case of a text whose characters `before`, nearest first, are done.  A capital sigma at
the end of a word has a form of its own. -/
def lowerAfter (before : Text) : Text → Text
  | [] => []
  | c :: cs =>
    let here :=
      if c = 'Σ' then
        [if Unicode.casedFirst before && !Unicode.casedFirst cs then 'ς' else 'σ']
      else Unicode.lower c
    here ++ lowerAfter (c :: before) cs

def lower (cs : Text) : Text := lowerAfter [] cs

end Text

end SqlTemplate
