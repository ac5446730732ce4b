import Transcript.Text.Number

/-! # Places in a YAML text

In YAML the column at which something stands matters, so that a text is read with a
cursor that knows its place.
-/

namespace Transcript.Yaml

/-- Whether a character may occur in a text at all. -/
def isAllowed (c : Char) : Bool :=
  c = '\t' || c = '\n' || c = '\r' || (' ' ≤ c && c ≤ '~') || c = '\u0085'
    || ('\u00a0' ≤ c && c ≤ '\ufffd') || 0x10000 ≤ c.toNat

/-- Whether a character breaks a line. -/
def isBreak (c : Char) : Bool :=
  c = '\n' || c = '\r' || c = '\u0085' || c = '\u2028' || c = '\u2029'

/-- Whether a character is a space or a tab. -/
def isBlank (c : Char) : Bool := c = ' ' || c = '\t'

/-- Whether a character separates words. -/
def isGap (c : Char) : Bool := isBlank c || isBreak c

/-- Whether a character may stand in the name of an anchor. -/
def isNameChar (c : Char) : Bool :=
  Text.isDigit c || ('a' ≤ c && c ≤ 'z') || ('A' ≤ c && c ≤ 'Z') || c = '_' || c = '-'

/-- Whether a text begins with a character that satisfies `p`, or is at its end. -/
def endsOr (p : Char → Bool) : Text → Bool
  | [] => true
  | c :: _ => p c

/-- Whether a text begins with one of the marks between documents. -/
def isDocumentMark (text : Text) : Bool :=
  (text.take 3 == ['-', '-', '-'] || text.take 3 == ['.', '.', '.'])
    && endsOr isGap (text.drop 3)

/-- A place in a text. -/
structure Cursor where
  /-- The text from here on. -/
  rest : Text
  /-- The number of characters before. -/
  index : Nat
  line : Nat
  column : Nat

/-- A scan that keeps its place. -/
abbrev Read := StateT Cursor Option

namespace Read

/-- The text from here on. -/
def rest : Read Text := do pure (← get).rest

/-- The next character, which stays. -/
def peek : Read (Option Char) := do pure (← get).rest.head?

/-- The column of the next character. -/
def column : Read Nat := do pure (← get).column

/-- Takes so many characters of this line. -/
def skip (count : Nat) : Read Unit :=
  modify fun cursor =>
    { cursor with
      rest := cursor.rest.drop count
      index := cursor.index + count
      column := cursor.column + count }

/-- Takes the longest run of characters of this line that satisfy `p`. -/
def takeWhile (p : Char → Bool) : Read Text := do
  let run := (← rest).takeWhile fun c => p c && !isBreak c
  skip run.length
  pure run

/-- Takes the break of a line. The breaks of the usual kinds count as a line feed, the
two separators as themselves. -/
def takeBreak : Read Text := do
  let cursor ← get
  let after (rest : Text) (width : Nat) : Cursor :=
    ⟨rest, cursor.index + width, cursor.line + 1, 0⟩
  match cursor.rest with
  | '\r' :: '\n' :: rest => do set (after rest 2); pure ['\n']
  | c :: rest =>
    if c = '\u2028' || c = '\u2029' then do set (after rest 1); pure [c]
    else if isBreak c then do set (after rest 1); pure ['\n']
    else pure []
  | [] => pure []

/-- Drops blanks and a comment, up to the end of the line, and the break of the line. -/
def endOfLine : Read Unit := do
  let _ ← takeWhile isBlank
  if (← peek) = some '#' then
    let _ ← takeWhile fun _ => true
  if !endsOr isBreak (← rest) then failure
  let _ ← takeBreak

end Read

/-! ## Gaps -/

/-- Blanks and line breaks between two parts of a scalar. -/
structure Gap where
  /-- The blanks, if there is no break. -/
  blanks : Text
  /-- The first break, empty if it is one that a backslash hides, and the others. -/
  breaks : Option (Text × Text)

namespace Gap

/-- What a gap comes to inside a scalar: its blanks, or a space for a single line feed,
or all breaks but a line feed that comes first. -/
def fold (gap : Gap) : Text :=
  match gap.breaks with
  | none => gap.blanks
  | some (['\n'], []) => [' ']
  | some (['\n'], later) => later
  | some (first, later) => first ++ later

/-- Reads the rest of a gap. After a break no tab may stand left of the column `margin`. -/
def read (margin : Nat) : (fuel : Nat) → Gap → Read Gap
  | 0, gap => pure gap
  | fuel + 1, gap => do
    match ← Read.peek with
    | none => pure gap
    | some c =>
      if isBlank c then
        match gap.breaks with
        | none => do
          Read.skip 1
          read margin fuel { gap with blanks := gap.blanks ++ [c] }
        | some _ => do
          if c = '\t' && (← Read.column) < margin then failure
          Read.skip 1
          read margin fuel gap
      else if isBreak c then
        let this ← Read.takeBreak
        match gap.breaks with
        | none => read margin fuel { gap with breaks := some (this, []) }
        | some (first, later) => read margin fuel { gap with breaks := some (first, later ++ this) }
      else pure gap

end Gap

end Transcript.Yaml
