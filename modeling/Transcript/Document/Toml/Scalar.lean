import Transcript.Decimal
import Transcript.Text.Scan

/-! # Scalars of TOML

Strings in four notations, numbers, dates and truth values.
-/

namespace Transcript.Toml

/-- The scalars of TOML. Of floating-point numbers, dates and times only the sort is
kept. -/
inductive Scalar where
  | text (content : Text)
  | integer (value : Int)
  | flag (value : Bool)
  | float
  | date

/-! ## Blanks -/

/-- Whether a character is a space or a tab. -/
def isBlank (c : Char) : Bool := c = ' ' || c = '\t'

/-- Whether a character may stand in a line: a tab, or no control character. -/
def isPlain (c : Char) : Bool := c = '\t' || (0x20 ≤ c.toNat && c.toNat != 0x7F)

/-- Drops spaces and tabs. -/
def blanks : Scan Unit := do
  let _ ← Scan.takeWhile isBlank

/-- Takes the end of a line, a line feed with or without a carriage return. -/
def newline : Scan Unit
  | '\n' :: rest => some ((), rest)
  | '\r' :: '\n' :: rest => some ((), rest)
  | _ => none

/-- Drops a comment if there is one. -/
def comment : Scan Unit := do
  if ← Scan.sees ['#'] then
    let _ ← Scan.takeWhile isPlain

/-! ## Strings -/

/-- The scalar value of a number. -/
def scalarValue? (code : Nat) : Option Char :=
  if code < 0xD800 || (0xDFFF < code && code < 0x110000) then some (Char.ofNat code) else none

/-- Takes what follows a backslash and stands for a character. -/
def escape : Scan Char := do
  match ← Scan.next with
  | 'b' => pure '\x08'
  | 't' => pure '\t'
  | 'n' => pure '\n'
  | 'f' => pure '\x0c'
  | 'r' => pure '\r'
  | '"' => pure '"'
  | '\\' => pure '\\'
  | 'u' => (((← Scan.takeExactly 4) |> Text.numeral? 16).bind scalarValue? : Option Char)
  | 'U' => (((← Scan.takeExactly 8) |> Text.numeral? 16).bind scalarValue? : Option Char)
  | _ => failure

/-- Drops blanks and ends of lines. -/
def blankLines : Text → Text
  | ' ' :: rest | '\t' :: rest | '\n' :: rest | '\r' :: '\n' :: rest => blankLines rest
  | rest => rest

/-- Takes the blanks before the end of a line, and all blanks and ends of lines after it:
what a backslash at the end of a line joins. -/
def lineJoin : Scan Unit := do
  blanks
  newline
  modify blankLines

/-- Takes the rest of a string in double quotes, in so many steps at most. -/
def basicRest : (steps : Nat) → Scan Text
  | 0 => failure
  | steps + 1 => do
    match ← Scan.next with
    | '"' => pure []
    | '\\' => do
      let c ← escape
      pure (c :: (← basicRest steps))
    | c => do
      Scan.check (isPlain c)
      pure (c :: (← basicRest steps))

/-- Takes the rest of a string in three double quotes, in so many steps at most. Up to
two quotes may stand before the closing ones. -/
def multilineRest : (steps : Nat) → Scan Text
  | 0 => failure
  | steps + 1 => do
    if ← Scan.takes "\"\"\"\"\"".toList then pure ['"', '"']
    else if ← Scan.takes "\"\"\"\"".toList then pure ['"']
    else if ← Scan.takes "\"\"\"".toList then pure []
    else
      match ← Scan.peek with
      | some '\n' | some '\r' => do
        newline
        pure ('\n' :: (← multilineRest steps))
      | some '\\' => do
        let _ ← Scan.next
        let piece ← (([·]) <$> escape) <|> (do lineJoin; pure [])
        pure (piece ++ (← multilineRest steps))
      | _ => do
        let c ← Scan.satisfy isPlain
        pure (c :: (← multilineRest steps))

/-- Takes the rest of a string in three apostrophes. Up to two apostrophes may stand
before the closing ones. -/
def rawMultilineRest : Scan Text
  | '\'' :: '\'' :: '\'' :: '\'' :: '\'' :: rest => some (['\'', '\''], rest)
  | '\'' :: '\'' :: '\'' :: '\'' :: rest => some (['\''], rest)
  | '\'' :: '\'' :: '\'' :: rest => some ([], rest)
  | '\r' :: '\n' :: rest => (rawMultilineRest rest).map fun (text, rest) => ('\n' :: text, rest)
  | c :: rest =>
    if isPlain c || c = '\n' then
      (rawMultilineRest rest).map fun (text, rest) => (c :: text, rest)
    else none
  | [] => none

/-- Takes the end of the line a string in three quotes opens with, if there is one. -/
def openingNewline : Scan Unit := newline <|> pure ()

/-- Takes a string in double quotes. -/
def basicString : Scan Text := do
  Scan.expect ['"']
  basicRest (← get).length

/-- Takes a string in apostrophes. -/
def rawString : Scan Text := do
  Scan.expect ['\'']
  let text ← Scan.takeWhile fun c => isPlain c && c != '\''
  Scan.expect ['\'']
  pure text

/-- Takes a string in any notation. -/
def string : Scan Text := do
  if ← Scan.takes "\"\"\"".toList then
    openingNewline
    multilineRest (← get).length
  else if ← Scan.takes "'''".toList then
    openingNewline
    rawMultilineRest
  else basicString <|> rawString

/-! ## Numbers -/

/-- Takes digits to the base, at least one. A single underscore may stand between two of
them. -/
def digits (base : Nat) : Scan Text := do
  let text ← Scan.takeSome fun c => Text.isDigitOf base c || c = '_'
  Scan.check (text.head? != some '_' && text.getLast? != some '_' && !text.includes ['_', '_'])
  pure (text.filter (· != '_'))

/-- Takes a sign, if there is one, and tells whether it is a minus. -/
def sign : Scan (Option Bool) := do
  match ← Scan.peek with
  | some '+' => do let _ ← Scan.next; pure (some false)
  | some '-' => do let _ ← Scan.next; pure (some true)
  | _ => pure none

/-- An integer of 64 bits. -/
def integer (negative : Bool) (value : Nat) : Scan Scalar := do
  Scan.check (if negative then value ≤ Nat.pow 2 63 else value < Nat.pow 2 63)
  pure (.integer (if negative then -value else value))

/-- Takes the power of ten of a number, if there is one. -/
def power : Scan Text := do
  match ← Scan.peek with
  | some 'e' | some 'E' => do
    let _ ← Scan.next
    let mark : Text := match ← sign with
      | some true => ['e', '-']
      | _ => ['e']
    pure (mark ++ (← digits 10))
  | _ => pure []

/-- Takes the part of a number after the point, if there is one. -/
def fraction : Scan Text := do
  if ← Scan.takes ['.'] then
    pure ('.' :: (← digits 10))
  else pure []

/-- Takes a number in decimal notation, after its sign. It has no leading zeros, and a
positive one with a fraction or a power of ten must not be too large. -/
def decimal (negative : Bool) : Scan Scalar := do
  let whole ← digits 10
  Scan.check (whole.length = 1 || whole.head? != some '0')
  let fraction ← fraction
  let power ← power
  if fraction.isEmpty && power.isEmpty then integer negative (Text.digitsValue 10 whole)
  else
    Scan.check (negative || (Decimal.ofText (whole ++ fraction ++ power)).toBinary?.isSome)
    pure .float

/-- Takes a number in any notation. -/
def number : Scan Scalar := do
  if ← Scan.takes "0x".toList then integer false (Text.digitsValue 16 (← digits 16))
  else if ← Scan.takes "0o".toList then integer false (Text.digitsValue 8 (← digits 8))
  else if ← Scan.takes "0b".toList then integer false (Text.digitsValue 2 (← digits 2))
  else
    let negative := (← sign) == some true
    if ← Scan.takes "inf".toList then pure .float
    else if ← Scan.takes "nan".toList then pure .float
    else decimal negative

/-! ## Dates and times -/

/-- Takes a decimal number of so many digits within bounds. -/
def field (count low high : Nat) : Scan Nat := do
  let value ← (Text.numeral? 10 (← Scan.takeExactly count) : Option Nat)
  Scan.check (low ≤ value && value ≤ high)
  pure value

/-- The number of days of a month. -/
def daysOfMonth (year month : Nat) : Nat :=
  if month = 2 then
    if year % 4 = 0 && (year % 100 != 0 || year % 400 = 0) then 29 else 28
  else if month = 4 || month = 6 || month = 9 || month = 11 then 30
  else 31

/-- Takes a calendar date. -/
def calendarDate : Scan Unit := do
  let year ← field 4 0 9999
  Scan.expect ['-']
  let month ← field 2 1 12
  Scan.expect ['-']
  let _ ← field 2 1 (daysOfMonth year month)

/-- Takes a time of day, in which the second may be a leap second. -/
def clockTime : Scan Unit := do
  let _ ← field 2 0 23
  Scan.expect [':']
  let _ ← field 2 0 59
  Scan.expect [':']
  let _ ← field 2 0 60
  if ← Scan.takes ['.'] then
    let _ ← Scan.takeSome Text.isDigit

/-- Takes the distance from universal time, if there is one. -/
def timeOffset : Scan Unit := do
  match ← Scan.peek with
  | some 'Z' | some 'z' => do let _ ← Scan.next
  | some '+' | some '-' => do
    let _ ← Scan.next
    let _ ← field 2 0 23
    Scan.expect [':']
    let _ ← field 2 0 59
  | _ => pure ()

/-- Whether a text begins with so many digits and then the given character. -/
def beginsWith (count : Nat) (c : Char) (text : Text) : Bool :=
  (text.take count).length = count && (text.take count).all Text.isDigit
    && (text.drop count).head? = some c

/-- Takes the time that belongs to a date, if there is one. -/
def timeOfDate : Scan Unit := do
  match ← get with
  | c :: rest =>
    if (c = 'T' || c = 't' || c = ' ') && beginsWith 2 ':' rest then do
      set rest
      clockTime
      timeOffset
  | [] => pure ()

/-- Takes a date, a time, or a number. -/
def dateOrNumber : Scan Scalar := do
  let text ← get
  if beginsWith 4 '-' text then
    calendarDate
    timeOfDate
    pure .date
  else if beginsWith 2 ':' text then
    clockTime
    pure .date
  else number

/-- Takes a scalar. -/
def scalar : Scan Scalar := do
  match ← Scan.peek with
  | some '"' | some '\'' => Scalar.text <$> string
  | some 't' => do Scan.expect "true".toList; pure (.flag true)
  | some 'f' => do Scan.expect "false".toList; pure (.flag false)
  | _ => dateOrNumber

end Transcript.Toml
