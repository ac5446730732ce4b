import Transcript.Text.Number

/-! # Options of a repository

The file in which a repository keeps its options: sections in square brackets, and names
with values below them.
-/

namespace Transcript.Repository

/-- The options of a repository, in order. A name is written in full, with its section
before it, and one without a value is set. -/
abbrev Options := List (Text × Option Text)

/-- Whether a character is a blank of the C language. -/
def isBlank (c : Char) : Bool := c = ' ' || ('\t' ≤ c && c ≤ '\r')

/-- Whether a character may stand in the name of a section or an option. -/
def isNameChar (c : Char) : Bool :=
  Text.isDigit c || ('a' ≤ c && c ≤ 'z') || ('A' ≤ c && c ≤ 'Z') || c = '-'

/-- A text without the blanks at its end. -/
def trimEnd (text : Text) : Text := (text.reverse.dropWhile isBlank).reverse

/-- Reads the name of a subsection after its opening quote, and the closing bracket. -/
def subsection? : Text → Option (Text × Text)
  | '"' :: ']' :: rest => some ([], rest)
  | '"' :: _ => none
  | '\\' :: c :: rest => (subsection? rest).map fun (name, rest) => (c :: name, rest)
  | c :: rest => (subsection? rest).map fun (name, rest) => (c :: name, rest)
  | [] => none

/-- Reads the header of a section after its opening bracket. -/
def header? (line : Text) : Option (Text × Text) :=
  let isHeaderChar (c : Char) : Bool := isNameChar c || c = '.'
  let name := (line.takeWhile isHeaderChar).map Char.toLower
  match line.dropWhile isHeaderChar with
  | ']' :: rest => if name.isEmpty then none else some (name, rest)
  | c :: rest =>
    if isBlank c then
      match rest.dropWhile isBlank with
      | '"' :: rest =>
        (subsection? rest).map fun (sub, rest) => (name ++ '.' :: sub, rest)
      | _ => none
    else none
  | [] => none

/-- A line without its comment. `quoted` and `escaped` say whether the line is inside
quotes and after a backslash. -/
def stripComment (quoted escaped : Bool) : Text → Text
  | [] => []
  | c :: rest =>
    if (c = ';' || c = '#') && !quoted && !escaped then []
    else c :: stripComment (quoted != (c = '"' && !escaped)) (c = '\\' && !escaped) rest

/-- The character a letter stands for after a backslash. -/
def escaped? : Char → Option Char
  | 'n' => some '\n'
  | 't' => some '\t'
  | 'b' => some '\x08'
  | '"' => some '"'
  | '\\' => some '\\'
  | _ => none

/-- A value without quotes and backslashes, and whether it goes on in the next line. -/
def unescape? : Text → Option (Text × Bool)
  | [] => some ([], false)
  | '\\' :: [] => some ([], true)
  | '\\' :: letter :: rest =>
    match escaped? letter, unescape? rest with
    | some c, some (text, goesOn) => some (c :: text, goesOn)
    | _, _ => none
  | '"' :: rest => unescape? rest
  | c :: rest => (unescape? rest).map fun (text, goesOn) => (c :: text, goesOn)

/-- Whether an odd number of quotes stand in a text. -/
def leavesQuote (text : Text) : Bool := text.count '"' % 2 = 1

/-- Reads the lines in which a value goes on. -/
def continued? (quoted : Bool) : List Text → Option (Text × List Text)
  | [] => some ([], [])
  | line :: rest =>
    let content := trimEnd (stripComment quoted false line)
    match unescape? content with
    | none => none
    | some (text, false) => some (text, rest)
    | some (text, true) =>
      (continued? (quoted != leavesQuote content) rest).map fun (later, rest) =>
        (text ++ later, rest)

/-- Reads an option, with the lines in which its value goes on. -/
def option? (line : Text) (later : List Text) : Option ((Text × Option Text) × List Text) :=
  let content := trimEnd (stripComment false false line)
  let name := (content.takeWhile isNameChar).map Char.toLower
  if name.isEmpty then none
  else match (content.dropWhile isNameChar).dropWhile isBlank with
    | [] => some ((name, none), later)
    | '=' :: value =>
      match unescape? (value.dropWhile isBlank) with
      | none => none
      | some (text, false) => some ((name, some text), later)
      | some (text, true) =>
        (continued? (leavesQuote content) later).map fun (rest, later) =>
          ((name, some (text ++ rest)), later)
    | _ => none

/-- Reads the options of the lines in a section. After the header of a section the same
line may go on. -/
def optionsWithin : (fuel : Nat) → (sectionName : Text) → List Text → Option Options
  | 0, _, _ => none
  | _, _, [] => some []
  | fuel + 1, sectionName, line :: rest =>
    match line.dropWhile isBlank with
    | [] => optionsWithin fuel sectionName rest
    | ';' :: _ => optionsWithin fuel sectionName rest
    | '#' :: _ => optionsWithin fuel sectionName rest
    | '[' :: line =>
      match header? line with
      | none => none
      | some (name, line) => optionsWithin fuel name (line :: rest)
    | line =>
      match option? line rest with
      | none => none
      | some ((name, value), rest) =>
        let name := if sectionName.isEmpty then name else sectionName ++ '.' :: name
        (optionsWithin fuel sectionName rest).map ((name, value) :: ·)

/-- The options a text holds. -/
def Options.ofText? (text : Text) : Option Options :=
  let text := match text with
    | '\uFEFF' :: rest => rest
    | _ => text
  optionsWithin (text.length + 2) [] (Text.piecesAt '\n' text)

namespace Options

/-- The value of an option, the last one if there are several. -/
def find? (options : Options) (name : String) : Option (Option Text) :=
  options.reverse.lookup name.toList

/-- An integer: a numeral to the base ten, sixteen or eight, with a sign before it and a
letter for a power of 1024 after it. -/
def integer? (value : Text) : Option Int :=
  let (negative, digits) := match value.dropWhile isBlank with
    | '-' :: rest => (true, rest)
    | '+' :: rest => (false, rest)
    | rest => (false, rest)
  let (digits, unit) := match digits.getLast? with
    | some 'k' | some 'K' => (digits.dropLast, 1024)
    | some 'm' | some 'M' => (digits.dropLast, 1024 * 1024)
    | some 'g' | some 'G' => (digits.dropLast, 1024 * 1024 * 1024)
    | _ => (digits, 1)
  let magnitude := match digits with
    | '0' :: 'x' :: rest | '0' :: 'X' :: rest => Text.numeral? 16 rest
    | '0' :: _ => Text.numeral? 8 digits
    | _ => Text.numeral? 10 digits
  let number := magnitude.map fun n : Nat => (if negative then -(n * unit : Int) else n * unit)
  number.filter fun n => -2147483648 ≤ n && n ≤ 2147483647

/-- A truth value. An option without a value is true. -/
def flag? : Option Text → Option Bool
  | none => some true
  | some value =>
    let word := String.ofList (value.map Char.toLower)
    if word = "true" || word = "yes" || word = "on" then some true
    else if word = "false" || word = "no" || word = "off" || word = "" then some false
    else (integer? value).map (· != 0)

end Options

end Transcript.Repository
