import Transcript.Text.Basic
import Transcript.Text.Printable

/-! # Quoted texts

A text between double quotes in which every character shows itself: the usual
letters stand for tab, line feed, carriage return and NUL, and a character that
has no visible form of its own is written by its code point.
-/

namespace Transcript.Text

/-- The digits of a number to base sixteen, in lowercase. -/
def hexDigits (n : Nat) : Text := Nat.toDigits 16 n

/-- The digits of a number to base ten. -/
def decimalDigits (n : Nat) : Text := Nat.toDigits 10 n

/-- A character between double quotes. -/
def escape (c : Char) : Text :=
  match c with
  | '\x00' => ['\\', '0']
  | '\t' => ['\\', 't']
  | '\n' => ['\\', 'n']
  | '\r' => ['\\', 'r']
  | '\\' => ['\\', '\\']
  | '"' => ['\\', '"']
  | _ =>
    if isExtender c || !isPrintable c then ['\\', 'u', '\x7b'] ++ hexDigits c.toNat ++ ['\x7d']
    else [c]

/-- The text between double quotes. -/
def quoted (text : Text) : Text := '"' :: text.flatMap escape ++ ['"']

/-- A file path between double quotes. In a path an apostrophe is escaped too. -/
def quotedPath (path : Text) : Text :=
  '"' :: path.flatMap (fun c => if c = '\'' then ['\\', '\''] else escape c) ++ ['"']

end Transcript.Text
