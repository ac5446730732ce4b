import Transcript.Decimal
import Transcript.Document.Brackets
import Transcript.Document.Json
import Transcript.Document.Piece
import Transcript.Text.Letter

/-! # JSON5

The relaxed notation: comments, words as keys, strings in either quotes, more forms of
numbers, and commas before a closing bracket.
-/

namespace Transcript.Json5

/-- The scalars of JSON5. A word is a key, one of the constants, or a number that is
written with letters. -/
inductive Scalar where
  | word (pieces : List Piece)
  | number (written : Text)
  | string (pieces : List Piece)

/-! ## Blanks and comments -/

/-- Whether a character ends a line. -/
def isLineEnd (c : Char) : Bool :=
  c = '\n' || c = '\r' || c = '\u2028' || c = '\u2029'

/-- Whether a character separates tokens. -/
def isBlank (c : Char) : Bool :=
  isLineEnd c || c = '\t' || c = '\x0b' || c = '\x0c' || c = ' ' || c = '\u00a0'
    || c = '\u1680' || ('\u2000' ≤ c && c ≤ '\u200a') || c = '\u202f' || c = '\u205f'
    || c = '\u3000' || c = '\ufeff'

/-- The text after the end of a comment that is open. -/
def afterComment? : Text → Option Text
  | [] => none
  | '*' :: '/' :: rest => some rest
  | _ :: rest => afterComment? rest

/-- Drops a blank or a comment. -/
def skip? : Text → Option Text
  | [] => none
  | '/' :: '*' :: rest => afterComment? rest
  | '/' :: '/' :: rest => some (rest.dropWhile (!isLineEnd ·))
  | c :: rest => if isBlank c then some rest else none

/-! ## Strings and words -/

/-- The character a character other than a line end stands for after a backslash. -/
def escaped? (c : Char) : Option Char :=
  match c with
  | '0' => some '\x00'
  | 'b' => some '\x08'
  | 'f' => some '\x0c'
  | 'n' => some '\n'
  | 'r' => some '\r'
  | 't' => some '\t'
  | 'v' => some '\x0b'
  | 'x' | 'u' => none
  | _ => if Text.isDigit c then none else some c

/-- Reads a string after its opening quote. A line end after a backslash is left out. -/
def pieces? (quote : Char) : Text → Option (List Piece × Text)
  | [] => none
  | '\\' :: 'u' :: a :: b :: c :: d :: rest =>
    match Text.hex4? a b c d, pieces? quote rest with
    | some code, some (pieces, rest) => some (.unit code :: pieces, rest)
    | _, _ => none
  | '\\' :: 'x' :: a :: b :: rest =>
    match Text.numeral? 16 [a, b], pieces? quote rest with
    | some code, some (pieces, rest) => some (.char (Char.ofNat code) :: pieces, rest)
    | _, _ => none
  | '\\' :: '\r' :: '\n' :: rest => pieces? quote rest
  | '\\' :: c :: rest =>
    if isLineEnd c then pieces? quote rest
    else match escaped? c, pieces? quote rest with
      | some c, some (pieces, rest) => some (.char c :: pieces, rest)
      | _, _ => none
  | c :: rest =>
    if c = quote then some ([], rest)
    else if isLineEnd c then none
    else match pieces? quote rest with
      | some (pieces, rest) => some (.char c :: pieces, rest)
      | none => none

/-- Whether a word may begin with the character. -/
def beginsWord (c : Char) : Bool := Text.isLetter c || c = '$' || c = '_'

/-- Whether a word may go on with the character. -/
def continuesWord (c : Char) : Bool :=
  beginsWord c || Text.extendsLetters c || c = '\u200c' || c = '\u200d'

/-- Splits off the characters that continue a word. -/
def wordPieces : Text → List Piece × Text
  | [] => ([], [])
  | '\\' :: 'u' :: a :: b :: c :: d :: rest =>
    match Text.hex4? a b c d with
    | some code =>
      let (pieces, rest) := wordPieces rest
      (.unit code :: pieces, rest)
    | none => ([], '\\' :: 'u' :: a :: b :: c :: d :: rest)
  | c :: rest =>
    if continuesWord c then
      let (pieces, rest) := wordPieces rest
      (.char c :: pieces, rest)
    else ([], c :: rest)

/-- Reads a word. -/
def word? (text : Text) : Option (Scalar × Text) :=
  let begins := match text with
    | [] => false
    | c :: _ => beginsWord c || c = '\\'
  let (pieces, rest) := wordPieces text
  if begins && !pieces.isEmpty then some (.word pieces, rest) else none

/-! ## Numbers -/

/-- Reads digits and a point, in this order or with digits after the point. -/
def pointed? (text : Text) : Option (Text × Text) :=
  let after (rest : Text) : Text × Text :=
    ('.' :: rest.takeWhile Text.isDigit, rest.dropWhile Text.isDigit)
  match text with
  | '.' :: rest =>
    match rest with
    | c :: _ => if Text.isDigit c then some (after rest) else none
    | [] => none
  | _ =>
    match Json.whole? text with
    | some (whole, '.' :: rest) => let (fraction, rest) := after rest
      some (whole ++ fraction, rest)
    | other => other

/-- Reads a decimal number without its sign. A letter `e` that no power of ten follows
is not part of it. -/
def decimal? (text : Text) : Option (Text × Text) :=
  match pointed? text with
  | none => none
  | some (number, rest) =>
    match Json.power? rest with
    | some (power, rest) => some (number ++ power, rest)
    | none => some (number, rest)

/-- Reads a hexadecimal number. -/
def hexadecimal? : Text → Option (Text × Text)
  | '0' :: x :: rest =>
    let digits := rest.takeWhile (Text.isDigitOf 16)
    if (x = 'x' || x = 'X') && !digits.isEmpty then
      some ('0' :: x :: digits, rest.dropWhile (Text.isDigitOf 16))
    else none
  | _ => none

/-- Infinity as it is written. -/
def infinity : Text := "Infinity".toList

/-- The number that is none as it is written. -/
def notANumber : Text := "NaN".toList

/-- Reads one of the numbers written with letters. -/
def named? (text : Text) : Option (Text × Text) :=
  if infinity.isPrefixOf text then some (infinity, text.drop infinity.length)
  else if notANumber.isPrefixOf text then some (notANumber, text.drop notANumber.length)
  else none

/-- Reads a number without its sign. -/
def unsigned? (text : Text) : Option (Text × Text) :=
  ((hexadecimal? text).or (decimal? text)).or (named? text)

/-- Reads a scalar. -/
def scalar? : Text → Option (Scalar × Text)
  | '"' :: rest => (pieces? '"' rest).map fun (pieces, rest) => (.string pieces, rest)
  | '\'' :: rest => (pieces? '\'' rest).map fun (pieces, rest) => (.string pieces, rest)
  | '+' :: rest => (unsigned? rest).map fun (number, rest) => (.number ('+' :: number), rest)
  | '-' :: rest => (unsigned? rest).map fun (number, rest) => (.number ('-' :: number), rest)
  | text =>
    match word? text with
    | some result => some result
    | none => (unsigned? text).map fun (number, rest) => (.number number, rest)

/-- The words that are values. -/
def constants : List Text :=
  ["null".toList, "true".toList, "false".toList, infinity, notANumber]

/-- Words and strings are keys, and a word is a value if it is a constant. -/
def grammar : Brackets.Grammar Scalar where
  trailingComma := true
  isKey
    | .word _ => true
    | .string _ => true
    | .number _ => false
  isValue
    | .word pieces => (Piece.plain? pieces).any constants.elem
    | _ => true

/-- The document a text stands for. -/
def parse? (text : Text) : Option (Node Scalar) :=
  (Brackets.tokens? skip? scalar? text).bind (Brackets.parse? grammar)

/-! ## Values -/

/-- The code point of a pair of surrogates. The bits of the two are combined, not added,
so that a character of an even plane is read as the one below it. -/
def pair (lead trail : Nat) : Nat :=
  ((lead - 0xD800) * 0x400) ||| (trail - 0xDC00 + 0x10000)

namespace Scalar

/-- The word a scalar is, if it is written without escapes. -/
def plainWord? : Scalar → Option Text
  | word pieces => Piece.plain? pieces
  | _ => none

/-- A number as it is written. -/
def written? : Scalar → Option Text
  | number written => some written
  | word pieces => (Piece.plain? pieces).filter fun w => w = infinity || w = notANumber
  | string _ => none

/-- The text of a string. -/
def text? : Scalar → Option Text
  | string pieces => Piece.text? pair pieces
  | _ => none

/-- The text of a key. -/
def keyText? : Scalar → Option Text
  | word pieces => Piece.text? pair pieces
  | string pieces => Piece.text? pair pieces
  | number _ => none

end Scalar

/-- Whether a number is hexadecimal. -/
def isHexadecimal : Text → Bool
  | '0' :: x :: _ => x = 'x' || x = 'X'
  | _ => false

/-- The value of a hexadecimal number, which has 32 bits at most. -/
def hexadecimalValue? (written : Text) : Option Nat :=
  (Text.numeral? 16 (written.drop 2)).filter (· < Nat.pow 2 32)

/-- A number without its sign, and whether the sign is a minus. -/
def splitSign : Text → Bool × Text
  | '-' :: rest => (true, rest)
  | '+' :: rest => (false, rest)
  | rest => (false, rest)

/-- A decimal number in binary, if it is written with digits and not too large. -/
def binary? (digits : Text) : Option Binary :=
  match digits with
  | [] => none
  | c :: _ => if Text.isDigit c || c = '.' then (Decimal.ofText digits).toBinary? else none

/-- The size a number stands for: its whole part, with negative numbers and the number
that is none brought to zero, and numbers that are too great to the greatest size. -/
def size? (written : Text) : Option Nat :=
  if written = infinity then some maxSize
  else if written = '-' :: infinity || written = notANumber || written = '-' :: notANumber then
    some 0
  else if isHexadecimal written then hexadecimalValue? written
  else
    let (negative, digits) := splitSign written
    if isHexadecimal digits then none
    else (binary? digits).map fun x => if negative then 0 else min x.floor maxSize

/-- Whether a number is written as a whole number. -/
def isWhole (written : Text) : Bool :=
  !written.elem '.' && (isHexadecimal written || !(written.elem 'e' || written.elem 'E'))
    && written != infinity && written != '-' :: infinity
    && written != notANumber && written != '-' :: notANumber

/-- Whether a number can stand where no particular value is asked for: a whole number has
63 bits besides the sign, or 32 bits if it is hexadecimal, and no other number is too
large. -/
def isOrdinary (written : Text) : Bool :=
  let (negative, digits) := splitSign written
  if isWhole written then
    if isHexadecimal written then (hexadecimalValue? written).isSome
    else (Text.numeral? 10 digits).any (· < if negative then Nat.pow 2 63 + 1 else Nat.pow 2 63)
  else (size? written).isSome

end Transcript.Json5
