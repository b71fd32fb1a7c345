import SqlTemplate.Double
import SqlTemplate.Text

/-!
The decimal text of a double: the fewest digits that no other double is nearer to, and of those
the ones nearest to the number.
-/
namespace SqlTemplate

/-- The number `digits * 10 ^ exponent`. -/
structure Decimal where
  digits : Nat
  exponent : Int
  deriving DecidableEq, Repr

namespace Double

/-- The fractions that round to one double: from `low` to `high` in units of `num / den`, ends
included if `closed`, with the double itself at `middle`. -/
structure Neighbourhood where
  low : Nat
  middle : Nat
  high : Nat
  num : Nat
  den : Nat
  closed : Bool

/-- The gap below a power of two is half the gap above it. -/
def neighbourhood (m : Nat) (e : Int) : Neighbourhood where
  low := if m = Nat.pow 2 52 ∧ leastExponent < e then 4 * m - 1 else 4 * m - 2
  middle := 4 * m
  high := 4 * m + 2
  num := Nat.pow 2 (e - 2).toNat
  den := Nat.pow 2 (2 - e).toNat
  closed := m % 2 == 0

namespace Neighbourhood

variable (n : Neighbourhood)

/-- Whether `s * 10 ^ q` lies in the neighbourhood. -/
def contains (q : Int) (s : Nat) : Bool :=
  let point := s * Nat.pow 10 q.toNat * n.den
  let unit := n.num * Nat.pow 10 (-q).toNat
  if n.closed then n.low * unit ≤ point && point ≤ n.high * unit
  else n.low * unit < point && point < n.high * unit

/-- The multiple of `10 ^ q` in the neighbourhood that is nearest to the middle, if it has one. -/
def pick? (q : Int) : Option Nat :=
  let step := Nat.pow 10 q.toNat * n.den
  let value := n.middle * n.num * Nat.pow 10 (-q).toNat
  let s := value / step
  match n.contains q s && s != 0, n.contains q (s + 1) with
  | true, true =>
    let r := value % step
    if 2 * r < step then some s else if step < 2 * r then some (s + 1) else some (s + s % 2)
  | true, false => some s
  | false, true => some (s + 1)
  | false, false => none

/-- Tries the grids of `10 ^ q` from the coarsest on, at most `count` of them. -/
def search : Nat → Int → Decimal
  | 0, q => ⟨0, q⟩
  | count + 1, q =>
    match n.pick? q with
    | some s => ⟨s, q⟩
    | none => search count (q - 1)

end Neighbourhood

/-- The shortest decimal of the positive double `m * 2 ^ e`.  No double needs more than seventeen
digits, and the first grid is at most two above the leading digit. -/
def shortest (m : Nat) (e : Int) : Decimal :=
  (neighbourhood m e).search 20 (((m.log2 : Int) + e + 1) * 30103 / 100000 + 1)

/-- Digits with a point, or with an exponent where the leading digit stands below `10 ^ -5` or
from `10 ^ 16` on. -/
def layout (d : Decimal) : String :=
  let digits := toString d.digits
  let count := digits.length
  let lead : Int := d.exponent + count - 1
  if -5 ≤ lead ∧ lead < 0 then
    "0." ++ String.ofList (List.replicate (-lead - 1).toNat '0') ++ digits
  else if 0 ≤ lead ∧ lead < 16 then
    if 0 ≤ d.exponent then
      digits ++ String.ofList (List.replicate d.exponent.toNat '0') ++ ".0"
    else
      let cut := (lead + 1).toNat
      String.ofList (digits.toList.take cut) ++ "." ++ String.ofList (digits.toList.drop cut)
  else
    let fraction := digits.toList.drop 1
    let point := if fraction.isEmpty then "" else "."
    let sign := if lead < 0 then "-" else "+"
    String.ofList (digits.toList.take 1) ++ point ++ String.ofList fraction ++ "e" ++ sign ++
      toString lead.natAbs

def text : Double → String
  | finite negative m e =>
    (if negative then "-" else "") ++ if m = 0 then "0.0" else layout (shortest m e)
  | infinite negative => if negative then "-inf" else "inf"
  | nan => "NaN"

end Double

end SqlTemplate
