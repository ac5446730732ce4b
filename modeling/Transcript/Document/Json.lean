import Transcript.Document.Brackets
import Transcript.Document.Piece

/-! # JSON

The strict notation. The characters of a string are kept apart from its escapes until
the string is wanted, because a surrogate without a partner is no error in a string that
nobody looks at.
-/

namespace Transcript.Json

/-- The scalars of JSON. A number is kept as it is written. -/
inductive Scalar where
  | null
  | flag (value : Bool)
  | number (written : Text)
  | string (pieces : List Piece)

/-- The character a letter stands for after a backslash. -/
def escaped? : Char → Option Char
  | '"' => some '"'
  | '\\' => some '\\'
  | '/' => some '/'
  | 'b' => some '\x08'
  | 'f' => some '\x0c'
  | 'n' => some '\n'
  | 'r' => some '\r'
  | 't' => some '\t'
  | _ => none

/-- Reads a string after its opening quote. -/
def pieces? : Text → Option (List Piece × Text)
  | [] => none
  | '"' :: rest => some ([], rest)
  | '\\' :: 'u' :: a :: b :: c :: d :: rest =>
    match Text.hex4? a b c d, pieces? rest with
    | some code, some (pieces, rest) => some (.unit code :: pieces, rest)
    | _, _ => none
  | '\\' :: letter :: rest =>
    match escaped? letter, pieces? rest with
    | some c, some (pieces, rest) => some (.char c :: pieces, rest)
    | _, _ => none
  | c :: rest =>
    if c.toNat < 0x20 then none
    else match pieces? rest with
      | some (pieces, rest) => some (.char c :: pieces, rest)
      | none => none

/-- Splits digits off the front of a text, at least one. -/
def digits? (text : Text) : Option (Text × Text) :=
  let digits := text.takeWhile Text.isDigit
  if digits.isEmpty then none else some (digits, text.dropWhile Text.isDigit)

/-- Reads the whole part of a number: a zero alone, or digits that begin with another
one. -/
def whole? : Text → Option (Text × Text)
  | '0' :: rest => some (['0'], rest)
  | text => digits? text

/-- Reads a point and the digits after it, if a point comes first. -/
def fraction? : Text → Option (Text × Text)
  | '.' :: rest => (digits? rest).map fun (digits, rest) => ('.' :: digits, rest)
  | text => some ([], text)

/-- Reads a power of ten, if the letter `e` comes first. -/
def power? : Text → Option (Text × Text)
  | c :: rest =>
    if c = 'e' || c = 'E' then
      let (sign, rest) := match rest with
        | '+' :: rest => (['+'], rest)
        | '-' :: rest => (['-'], rest)
        | _ => ([], rest)
      (digits? rest).map fun (digits, rest) => (c :: sign ++ digits, rest)
    else some ([], c :: rest)
  | [] => some ([], [])

/-- Reads a number without its sign. -/
def unsigned? (text : Text) : Option (Text × Text) := do
  let (whole, rest) ← whole? text
  let (fraction, rest) ← fraction? rest
  let (power, rest) ← power? rest
  some (whole ++ fraction ++ power, rest)

/-- Reads a scalar. -/
def scalar? : Text → Option (Scalar × Text)
  | 'n' :: 'u' :: 'l' :: 'l' :: rest => some (.null, rest)
  | 't' :: 'r' :: 'u' :: 'e' :: rest => some (.flag true, rest)
  | 'f' :: 'a' :: 'l' :: 's' :: 'e' :: rest => some (.flag false, rest)
  | '"' :: rest => (pieces? rest).map fun (pieces, rest) => (.string pieces, rest)
  | '-' :: rest => (unsigned? rest).map fun (number, rest) => (.number ('-' :: number), rest)
  | text => (unsigned? text).map fun (number, rest) => (.number number, rest)

/-- Drops a blank. -/
def skip? : Text → Option Text
  | ' ' :: rest | '\t' :: rest | '\n' :: rest | '\r' :: rest => some rest
  | _ => none

/-- Strings are keys, and every scalar is a value. -/
def grammar : Brackets.Grammar Scalar where
  trailingComma := false
  isKey
    | .string _ => true
    | _ => false
  isValue _ := true

/-- The document a text stands for. -/
def parse? (text : Text) : Option (Node Scalar) :=
  (Brackets.tokens? skip? scalar? text).bind (Brackets.parse? grammar)

end Transcript.Json
