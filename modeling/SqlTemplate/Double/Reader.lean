import SqlTemplate.Double
import SqlTemplate.Text

/-!
Reading a double from decimal text: a sign, digits with a point, an exponent, each optional but
for one digit; or one of the words `inf`, `infinity` and `nan` in any case.
-/
namespace SqlTemplate

/-- The number that decimal digits write. -/
def natOfDigits (cs : Text) : Nat := cs.foldl (fun n c => 10 * n + (c.toNat - '0'.toNat)) 0

/-- Splits off a sign; `true` is minus. -/
def takeSign : Text → Bool × Text
  | '-' :: cs => (true, cs)
  | '+' :: cs => (false, cs)
  | cs => (false, cs)

namespace Double

/-- The exponent that `e` or `E` introduces; an empty text is exponent zero. -/
def exponentOfText? : Text → Option Int
  | [] => some 0
  | c :: cs =>
    if c = 'e' ∨ c = 'E' then
      let (negative, digits) := takeSign cs
      if digits.isEmpty || !digits.all Char.isDigit then none
      else
        let n : Int := natOfDigits digits
        some (if negative then -n else n)
    else none

/-- Digits with an optional point among them, and an optional exponent. -/
def ofUnsigned? (negative : Bool) (cs : Text) : Option Double :=
  let whole := cs.takeWhile Char.isDigit
  let rest := cs.dropWhile Char.isDigit
  let (fraction, rest) := match rest with
    | '.' :: more => (more.takeWhile Char.isDigit, more.dropWhile Char.isDigit)
    | _ => ([], rest)
  if whole.isEmpty && fraction.isEmpty then none
  else
    (exponentOfText? rest).map fun e =>
      ofDecimal negative (natOfDigits (whole ++ fraction)) (e - fraction.length)

def ofText? (cs : Text) : Option Double :=
  let (negative, rest) := takeSign cs
  let word := Text.asciiLower rest
  if word = "inf".toList ∨ word = "infinity".toList then some (infinite negative)
  else if word = "nan".toList then some nan
  else ofUnsigned? negative rest

end Double

end SqlTemplate
