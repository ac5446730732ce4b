import Transcript.Text.Basic

/-! # Numerals

Reading digits, and the range of sizes. A size is a natural number that fits in 64
bits.
-/

namespace Transcript

/-- The greatest size. -/
def maxSize : Nat := Nat.pow 2 64 - 1

namespace Text

/-- Whether a character is one of the digits 0 to 9. -/
def isDigit (c : Char) : Bool := '0' ≤ c && c ≤ '9'

/-- The value of a digit or letter, with ten for `a` in either case. -/
def digitValue (c : Char) : Nat :=
  if isDigit c then c.toNat - '0'.toNat
  else if 'a' ≤ c && c ≤ 'z' then c.toNat - 'a'.toNat + 10
  else if 'A' ≤ c && c ≤ 'Z' then c.toNat - 'A'.toNat + 10
  else 36

/-- Whether a character is a digit to the base. -/
def isDigitOf (base : Nat) (c : Char) : Bool := digitValue c < base

/-- The value of a sequence of digits to the base. -/
def digitsValue (base : Nat) (digits : Text) : Nat :=
  digits.foldl (fun value c => value * base + digitValue c) 0

/-- Reads a numeral to the base: digits, at least one, and nothing else. -/
def numeral? (base : Nat) (text : Text) : Option Nat :=
  if text.isEmpty || !text.all (isDigitOf base) then none else some (digitsValue base text)

/-- Reads a size: a decimal numeral, which a plus sign may precede. -/
def size? (text : Text) : Option Nat :=
  let digits := match text with
    | '+' :: rest => rest
    | _ => text
  (numeral? 10 digits).filter (· ≤ maxSize)

end Text

end Transcript
