import Transcript.Text.Space

/-! # Wrapping a paragraph

Words are packed into rows from left to right, and a row is left only when the next
word would make it longer than the limit. The first row opens with the white space the
text opens with, every later row with a fixed indentation. A word is never divided: one
that fits on no row stands alone on a row that is too long.

The rows are cut first and rendered afterwards, so that a layout is a cut of the
sequence of words together with the opening of each row.
-/

namespace Transcript

/-- A row of a layout: its opening and its words. -/
structure Row where
  opening : Text
  words : List Text

namespace Row

/-- The row as a line: the opening and the words, joined by single spaces. -/
def render (row : Row) : Text := row.opening ++ Text.joinWith [' '] row.words

end Row

namespace Layout

/-- Cuts words into rows, given the length of the row begun. The first component holds
the words that still go on that row, the second the rows after it. -/
def cut (limit indent : Nat) (used : Nat) : List Text → List Text × List (List Text)
  | [] => ([], [])
  | word :: rest =>
    if used + 1 + word.length ≤ limit then
      let (row, later) := cut limit indent (used + 1 + word.length) rest
      (word :: row, later)
    else
      let (row, later) := cut limit indent (indent + word.length) rest
      ([], (word :: row) :: later)

/-- How the first row opens: with the leading white space of the text, unless its first
word does not fit after that. -/
def opening (limit indent : Nat) (lead first : Text) : Text :=
  if lead.length + first.length ≤ limit then lead else Text.blanks indent

/-- The rows of a text that begins with the white space `lead` and has the words
`first :: rest`. -/
def rows (limit indent : Nat) (lead first : Text) (rest : List Text) : List Row :=
  let start := opening limit indent lead first
  let (row, later) := cut limit indent (start.length + first.length) rest
  ⟨start, first :: row⟩ :: later.map (⟨Text.blanks indent, ·⟩)

/-- The lines of a text wrapped to `limit` columns, with later lines indented by
`indent`. A text that fits, or that has no word, is one line as it stands. -/
def wrap (text : Text) (indent limit : Nat) : List Text :=
  if text.length ≤ limit then [text]
  else match text.words with
    | [] => [text]
    | first :: rest => (rows limit indent text.leadingSpace first rest).map Row.render

end Layout

end Transcript
