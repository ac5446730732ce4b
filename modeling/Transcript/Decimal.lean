import Transcript.Text.Number

/-! # Decimal numbers and binary floating point

A decimal number is a mantissa times a power of ten. It is rounded to 53 significant
bits, the nearest such number, or of two equally near the one with an even mantissa. A
number of 1024 bits or more is too large. Signs are left to the caller.
-/

namespace Transcript

/-- The number `mantissa * 10 ^ exponent`. -/
structure Decimal where
  mantissa : Nat
  exponent : Int
  deriving DecidableEq

/-- The number `mantissa * 2 ^ exponent`. -/
structure Binary where
  mantissa : Nat
  exponent : Int
  deriving DecidableEq

namespace Binary

/-- A quotient rounded to a whole number, ties to even. -/
def divideRounded (numerator denominator : Nat) : Nat :=
  let quotient := numerator / denominator
  let remainder := numerator % denominator
  if 2 * remainder < denominator then quotient
  else if 2 * remainder > denominator then quotient + 1
  else quotient + quotient % 2

/-- A power of two, and one if the exponent is negative. -/
def shift (exponent : Int) : Nat := Nat.pow 2 exponent.toNat

/-- The exponent at which a positive quotient has 53 digits before the point, but not
below the least exponent. -/
def unitExponent (numerator denominator : Nat) : Int :=
  let guess : Int := (numerator.log2 : Int) - denominator.log2
  let least := if denominator * shift guess ≤ numerator * shift (-guess) then guess else guess - 1
  max (least - 52) (-1074)

/-- The nearest number with 53 significant bits to a quotient. -/
def ofQuotient (numerator denominator : Nat) : Binary :=
  let exponent := unitExponent numerator denominator
  ⟨divideRounded (numerator * shift (-exponent)) (denominator * shift exponent),
    exponent⟩

/-- Whether the number needs more than 1024 bits. -/
def isTooLarge (x : Binary) : Bool :=
  Nat.pow 2 1024 * shift (-x.exponent) ≤ x.mantissa * shift x.exponent

/-- The whole part. -/
def floor (x : Binary) : Nat := x.mantissa * shift x.exponent / shift (-x.exponent)

end Binary

namespace Decimal

/-- Reads the digits of a number: a whole part, a part after a point, and a power of
ten after the letter `e` in either case. The parts may be missing. -/
def ofText (text : Text) : Decimal :=
  let whole := text.takeWhile Text.isDigit
  let rest := text.dropWhile Text.isDigit
  let (fraction, rest) := match rest with
    | '.' :: rest => (rest.takeWhile Text.isDigit, rest.dropWhile Text.isDigit)
    | _ => ([], rest)
  let power : Int := match rest with
    | _ :: '-' :: digits => -(Text.digitsValue 10 digits)
    | _ :: '+' :: digits => Text.digitsValue 10 digits
    | _ :: digits => Text.digitsValue 10 digits
    | [] => 0
  ⟨Text.digitsValue 10 (whole ++ fraction), power - fraction.length⟩

/-- The nearest binary number, if it is not too large. A power of ten so small or so
great that it decides alone is not computed. -/
def toBinary? (x : Decimal) : Option Binary :=
  let size : Int := x.exponent + (Nat.toDigits 10 x.mantissa).length
  if x.mantissa = 0 || size < -400 then some ⟨0, 0⟩
  else if 400 < size then none
  else
    let binary := Binary.ofQuotient (x.mantissa * Nat.pow 10 x.exponent.toNat)
      (Nat.pow 10 (-x.exponent).toNat)
    if binary.isTooLarge then none else some binary

end Decimal

end Transcript
