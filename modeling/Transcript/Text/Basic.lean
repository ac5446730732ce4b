/-! # Texts and bytes

A text is the list of its Unicode scalar values, so every length and column in
this library is a count of scalar values. A character class of a standard is a list of
closed ranges of code points.

A line feed ends a line and nothing else does: a carriage return stays in its
line. Text after the last line feed is a line too, but an empty rest is not.
-/

namespace Transcript

/-- A text, one Unicode scalar value after the other. -/
abbrev Text := List Char

/-- A sequence of octets. -/
abbrev Bytes := List UInt8

namespace Text

/-- Whether `piece` occurs somewhere in the text. -/
def includes : (text piece : Text) → Bool
  | [], piece => piece.isEmpty
  | c :: rest, piece => piece.isPrefixOf (c :: rest) || includes rest piece

/-- A run of `width` spaces. -/
def blanks (width : Nat) : Text := List.replicate width ' '

/-- The texts in order, with `separator` between neighbours. -/
def joinWith (separator : Text) (pieces : List Text) : Text :=
  separator.intercalate pieces

/-- Puts a character in front of the first piece, or begins a new piece in its place. -/
def pushPiece (separator c : Char) (pieces : List Text) : List Text :=
  if c = separator then [] :: pieces
  else match pieces with
    | [] => [[c]]
    | piece :: rest => (c :: piece) :: rest

/-- The pieces of a text between the separators, at least one. -/
def piecesAt (separator : Char) (text : Text) : List Text :=
  text.foldr (pushPiece separator) [[]]

/-! ## Lines -/

/-- The lines of a text, without their line feeds. -/
def splitLines (text : Text) : List Text := text.foldr (pushPiece '\n') []

/-- A line as it is written: with its line feed. -/
def endLine (line : Text) : Text := line ++ ['\n']

/-- The text that holds the given lines, each ended by a line feed. -/
def joinLines (lines : List Text) : Text := lines.flatMap endLine

end Text

/-! ## Sets of code points -/

/-- Closed ranges of code points, in increasing order. -/
abbrev CodeRanges := List (Nat × Nat)

/-- Whether a character lies in one of the ranges. -/
def CodeRanges.contains (ranges : CodeRanges) (c : Char) : Bool :=
  ranges.any fun range => range.1 ≤ c.toNat && c.toNat ≤ range.2

end Transcript
