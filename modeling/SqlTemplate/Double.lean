/-!
Binary floating-point numbers of 64 bits as exact values.  Nothing is computed with them but
rounding to the nearest one, comparison and their bit pattern, and all three are integer
arithmetic.
-/
namespace SqlTemplate

/-- A finite number is `mantissa * 2 ^ exponent` with a sign.  The mantissa is below `2 ^ 53` and,
unless the exponent is the least one, at least `2 ^ 52`. -/
inductive Double where
  | finite (negative : Bool) (mantissa : Nat) (exponent : Int)
  | infinite (negative : Bool)
  | nan
  deriving DecidableEq, Repr

namespace Double

def leastExponent : Int := -1074

def greatestExponent : Int := 971

def zero (negative : Bool) : Double := finite negative 0 leastExponent

/-- The integer nearest to `num / den`, the even one of two. -/
def roundDiv (num den : Nat) : Nat :=
  let q := num / den
  let r := num % den
  if 2 * r < den then q else if den < 2 * r then q + 1 else q + q % 2

/-- The fraction `num / den / 2 ^ e` as numerator and denominator. -/
def unscale (num den : Nat) (e : Int) : Nat × Nat :=
  (num * Nat.pow 2 (-e).toNat, den * Nat.pow 2 e.toNat)

/-- The exponent that the double nearest to `num / den` has, unless rounding carries over. -/
def exponentOf (num den : Nat) : Int :=
  let e : Int := num.log2 - den.log2 - 53
  let (n, d) := unscale num den e
  max leastExponent (if n / d < Nat.pow 2 53 then e else e + 1)

/-- The double nearest to `num / den`, the one with even mantissa of two. -/
def ofRatio (negative : Bool) (num den : Nat) : Double :=
  if num = 0 then zero negative
  else
    let e := exponentOf num den
    let (n, d) := unscale num den e
    let m := roundDiv n d
    let (m, e) := if m = Nat.pow 2 53 then (Nat.pow 2 52, e + 1) else (m, e)
    if greatestExponent < e then infinite negative else finite negative m e

def ofInt (n : Int) : Double := ofRatio (decide (n < 0)) n.natAbs 1

/-- The double nearest to `digits * 10 ^ exponent`.  Exponents far out of range are answered
without writing out the power. -/
def ofDecimal (negative : Bool) (digits : Nat) (exponent : Int) : Double :=
  if digits = 0 then zero negative
  else if 400 < exponent then infinite negative
  else if exponent < -(digits.log2 + 400 : Int) then zero negative
  else if exponent < 0 then ofRatio negative digits (Nat.pow 10 exponent.natAbs)
  else ofRatio negative (digits * Nat.pow 10 exponent.toNat) 1

/-- The number as a multiple of the least positive double, with the infinities beyond all finite
ones. -/
def scaled? : Double → Option Int
  | finite negative m e =>
    let n : Int := m * Nat.pow 2 (e - leastExponent).toNat
    some (if negative then -n else n)
  | infinite negative => some (if negative then -Int.pow 2 2100 else Int.pow 2 2100)
  | nan => none

/-- No order holds where one side is not a number. -/
def compare? (a b : Double) : Option Ordering := do
  return compare (← a.scaled?) (← b.scaled?)

def isZero (a : Double) : Bool := a.scaled? == some 0

/-- The bit pattern: sign, biased exponent, mantissa without its leading bit. -/
def bits : Double → Nat
  | finite negative m e =>
    let sign := if negative then Nat.pow 2 63 else 0
    if m < Nat.pow 2 52 then sign + m
    else sign + (e + 1075).toNat * Nat.pow 2 52 + (m - Nat.pow 2 52)
  | infinite negative => (if negative then Nat.pow 2 63 else 0) + 2047 * Nat.pow 2 52
  | nan => 2047 * Nat.pow 2 52 + Nat.pow 2 51

end Double

end SqlTemplate
