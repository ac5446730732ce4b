import Transcript.Text.Basic

/-! # Scanning

A scan takes something off the front of a text and leaves the rest, or fails.
-/

namespace Transcript

/-- A scan that gives an `α`. -/
abbrev Scan := StateT Text Option

namespace Scan

variable {α : Type}

/-- The next character, which stays. -/
def peek : Scan (Option Char) := fun text => some (text.head?, text)

/-- Whether a word comes next, which stays. -/
def sees (word : Text) : Scan Bool := fun text => some (word.isPrefixOf text, text)

/-- Takes the next character. -/
def next : Scan Char
  | [] => none
  | c :: rest => some (c, rest)

/-- Takes the next character if it satisfies `p`. -/
def satisfy (p : Char → Bool) : Scan Char
  | [] => none
  | c :: rest => if p c then some (c, rest) else none

/-- Takes the longest run of characters that satisfy `p`. -/
def takeWhile (p : Char → Bool) : Scan Text := fun text =>
  some (text.takeWhile p, text.dropWhile p)

/-- Takes a run of characters that satisfy `p`, at least one. -/
def takeSome (p : Char → Bool) : Scan Text := fun text =>
  if (text.takeWhile p).isEmpty then none else some (text.takeWhile p, text.dropWhile p)

/-- Takes exactly `count` characters. -/
def takeExactly (count : Nat) : Scan Text := fun text =>
  if text.length < count then none else some (text.take count, text.drop count)

/-- Takes a word. -/
def expect (word : Text) : Scan Unit := fun text =>
  if word.isPrefixOf text then some ((), text.drop word.length) else none

/-- Takes a word if it comes next, and tells whether it did. -/
def takes (word : Text) : Scan Bool := fun text =>
  if word.isPrefixOf text then some (true, text.drop word.length) else some (false, text)

/-- Fails unless the condition holds. -/
def check (condition : Bool) : Scan Unit := fun text =>
  if condition then some ((), text) else none

/-- What a scan gives that has to take the whole text. -/
def whole? (scan : Scan α) (text : Text) : Option α :=
  match scan text with
  | some (value, []) => some value
  | _ => none

end Scan

end Transcript
