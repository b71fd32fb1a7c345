import SqlTemplate.Text
import SqlTemplate.Unicode.WordTable

/-!
Character classes.  White space separates tokens and is what trimming removes; word characters
decide word boundaries.  ASCII is decided by comparison and everything above it by the tables.
-/
namespace SqlTemplate

namespace Unicode

def inRanges (ranges : List (Nat × Nat)) (n : Nat) : Bool :=
  ranges.any fun r => r.1 ≤ n && n ≤ r.2

/-- The white space characters, control characters and separators alike. -/
def isBlank (c : Char) : Bool :=
  inRanges [(0x9, 0xd), (0x20, 0x20), (0x85, 0x85), (0xa0, 0xa0), (0x1680, 0x1680),
    (0x2000, 0x200a), (0x2028, 0x2029), (0x202f, 0x202f), (0x205f, 0x205f), (0x3000, 0x3000)]
    c.toNat

/-- Letters and numbers of every script. -/
def isAlphanumeric (c : Char) : Bool :=
  if c.toNat < 128 then c.isAlphanum else inRanges alphanumericRanges c.toNat

/-- Letters, marks, decimal digits, connectors such as `_`, and join controls. -/
def isWord (c : Char) : Bool :=
  if c.toNat < 128 then c.isAlphanum || c == '_' else inRanges wordRanges c.toNat

def isDecimal (c : Char) : Bool :=
  if c.toNat < 128 then c.isDigit else inRanges decimalRanges c.toNat

end Unicode

namespace Text

def skipBlanks (cs : Text) : Text := cs.dropWhile Unicode.isBlank

def trimEnd (cs : Text) : Text := (cs.reverse.dropWhile Unicode.isBlank).reverse

def trim (cs : Text) : Text := trimEnd (skipBlanks cs)

def isBlank (cs : Text) : Bool := cs.all Unicode.isBlank

theorem length_skipBlanks_le (cs : Text) : (skipBlanks cs).length ≤ cs.length :=
  (List.dropWhile_sublist _).length_le

end Text

end SqlTemplate
