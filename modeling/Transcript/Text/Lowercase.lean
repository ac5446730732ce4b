import Transcript.Text.Basic
import Transcript.Text.Lowercase.Table

/-! # Lowercase texts

The full lowercase mapping. Two letters need more than a table of single
letters: a dotted capital I becomes two characters, and a capital sigma is
written as a final sigma at the end of a word.
-/

namespace Transcript.Text

namespace Lowercase

/-- Whether the run holds the code point. -/
def Run.covers (run : Run) (code : Nat) : Bool :=
  run.first ≤ code && code ≤ run.last && (code - run.first) % run.step == 0

/-- The lowercase form of a character by itself. -/
def letter (c : Char) : Text :=
  if c.toNat < 0x80 then [c.toLower]
  else if c = 'İ' then ['i', '\u0307']
  else match runs.find? (·.covers c.toNat) with
    | some run => [Char.ofNat (Int.toNat (c.toNat + run.shift))]
    | none => [c]

/-- Whether a character has a case. -/
def isCased (c : Char) : Bool := casedRanges.contains c

/-- Whether a character is passed over in the search for a cased neighbour. -/
def isCaseIgnorable (c : Char) : Bool := caseIgnorableRanges.contains c

/-- Whether the first character that is not passed over has a case. -/
def meetsCased (text : Text) : Bool :=
  match text.dropWhile isCaseIgnorable with
  | [] => false
  | c :: _ => isCased c

/-- A capital sigma in lowercase. It is final when a cased character comes before
it, with `before` read from the nearest character outwards, and none after it. -/
def sigma (before after : Text) : Char :=
  if meetsCased before && !meetsCased after then 'ς' else 'σ'

/-- The lowercase form of a text that stands after `before`, which is given from
the nearest character outwards. -/
def after (before : Text) : Text → Text
  | [] => []
  | c :: rest =>
    (if c = 'Σ' then [sigma before rest] else letter c) ++ after (c :: before) rest

end Lowercase

/-- The text in lowercase. -/
def toLower (text : Text) : Text := Lowercase.after [] text

end Transcript.Text
