import Transcript.Text.Basic

/-! # White space and words

White space is the Unicode property of that name. It does not hold of the
information separators U+001C to U+001F, of U+180E, U+200B or U+FEFF. The words
of a text are its maximal runs free of white space.
-/

namespace Transcript.Text

/-- Whether a character is white space. -/
def isSpace (c : Char) : Bool :=
  let code := c.toNat
  (0x9 ≤ code && code ≤ 0xD) || code == 0x20 || code == 0x85 || code == 0xA0
    || code == 0x1680 || (0x2000 ≤ code && code ≤ 0x200A) || code == 0x2028
    || code == 0x2029 || code == 0x202F || code == 0x205F || code == 0x3000

/-- The white space a text opens with. -/
def leadingSpace (text : Text) : Text := text.takeWhile isSpace

/-- The text from its first character that is not white space. -/
def trimStart (text : Text) : Text := text.dropWhile isSpace

/-- The text up to its last character that is not white space. -/
def trimEnd (text : Text) : Text := (text.reverse.dropWhile isSpace).reverse

/-- The text without the white space at either end. -/
def trim (text : Text) : Text := trimEnd (trimStart text)

/-- The words of a text while it is read from the end: the word that touches the
front, empty when the front is white space, and the words after it. -/
structure WordScan where
  opening : Text
  later : List Text

namespace WordScan

/-- Puts one more character in front. -/
def push (c : Char) (scan : WordScan) : WordScan :=
  if isSpace c then
    if scan.opening.isEmpty then scan else ⟨[], scan.opening :: scan.later⟩
  else ⟨c :: scan.opening, scan.later⟩

/-- All words of the text read. -/
def words (scan : WordScan) : List Text :=
  if scan.opening.isEmpty then scan.later else scan.opening :: scan.later

end WordScan

/-- The words of a text, in order. -/
def words (text : Text) : List Text := (text.foldr WordScan.push ⟨[], []⟩).words

end Transcript.Text
