import Transcript.Text.Number

/-! # Strings written with code units

In some formats a string is written with escapes that stand for 16-bit code units, so
that a character beyond them takes a pair of surrogates.
-/

namespace Transcript

/-- A part of a written string: a character, or a code unit given by its number. -/
inductive Piece where
  | char (c : Char)
  | unit (code : Nat)
  deriving DecidableEq

namespace Piece

/-- Whether a code unit is the first of a pair. -/
def isLead (code : Nat) : Bool := 0xD800 ≤ code && code ≤ 0xDBFF

/-- Whether a code unit is the second of a pair. -/
def isTrail (code : Nat) : Bool := 0xDC00 ≤ code && code ≤ 0xDFFF

/-- The code point of a pair in UTF-16. -/
def utf16Pair (lead trail : Nat) : Nat := (lead - 0xD800) * 0x400 + (trail - 0xDC00) + 0x10000

/-- The text the pieces stand for, where `pair` gives the code point of a pair of
surrogates. A surrogate without its partner stands for nothing. -/
def text? (pair : Nat → Nat → Nat) : List Piece → Option Text
  | [] => some []
  | .char c :: rest => (text? pair rest).map (c :: ·)
  | .unit lead :: .unit trail :: rest =>
    if isLead lead then
      if isTrail trail then (text? pair rest).map (Char.ofNat (pair lead trail) :: ·) else none
    else if isTrail lead then none
    else (text? pair (.unit trail :: rest)).map (Char.ofNat lead :: ·)
  | .unit code :: rest =>
    if isLead code || isTrail code then none else (text? pair rest).map (Char.ofNat code :: ·)

/-- The text the pieces spell without any code unit. -/
def plain? (pieces : List Piece) : Option Text :=
  pieces.mapM fun
    | .char c => some c
    | .unit _ => none

end Piece

/-- The number written by four hexadecimal digits. -/
def Text.hex4? (a b c d : Char) : Option Nat := Text.numeral? 16 [a, b, c, d]

end Transcript
