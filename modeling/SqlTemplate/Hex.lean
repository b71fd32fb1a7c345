import SqlTemplate.Text

/-!
Hexadecimal numbers.
-/
namespace SqlTemplate.Hex

def digit? (c : Char) : Option Nat :=
  if c.isDigit then some (c.toNat - '0'.toNat)
  else if 'a' ≤ c ∧ c ≤ 'f' then some (c.toNat - 'a'.toNat + 10)
  else if 'A' ≤ c ∧ c ≤ 'F' then some (c.toNat - 'A'.toNat + 10)
  else none

/-- The number that hexadecimal digits write; no digits write zero. -/
def number? (cs : Text) : Option Nat := cs.foldlM (fun n c => (digit? c).map (16 * n + ·)) 0

/-- The character with this code point; surrogates and numbers above all code points have none. -/
def char? (n : Nat) : Option Char := if n.isValidChar then some (Char.ofNat n) else none

/-- A number in exactly `width` lower-case digits. -/
def digits (width n : Nat) : Text :=
  (List.range width).reverse.map fun i => Nat.digitChar (n / Nat.pow 16 i % 16)

end SqlTemplate.Hex
