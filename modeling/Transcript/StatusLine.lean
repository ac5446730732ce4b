import Transcript.Layout
import Transcript.Text.Number

/-! # Status lines

A status line is an optional indentation, a marker, a gap of white space and a
description. The marker is a check mark, a cross, a bullet, an asterisk, or a number
followed by a closing parenthesis. A status line too long for the terminal is wrapped
under its description.
-/

namespace Transcript

/-- The parts of a status line that its printed form keeps. -/
structure StatusLine where
  indent : Text
  marker : Text
  description : Text
  deriving DecidableEq

namespace StatusLine

/-- Whether a character is a marker by itself. -/
def isSymbol (c : Char) : Bool := c = '✓' || c = '✗' || c = '•' || c = '*'

/-- Divides a text into the marker it begins with and the rest. -/
def splitMarker? : Text → Option (Text × Text)
  | [] => none
  | c :: rest =>
    if isSymbol c then some ([c], rest)
    else if Text.isDigit c then
      match rest.dropWhile Text.isDigit with
      | ')' :: after => some (c :: rest.takeWhile Text.isDigit ++ [')'], after)
      | _ => none
    else none

/-- Reads a status line. The gap takes all white space after the marker, line feeds
included, and the description holds no line feed. -/
def parse? (line : Text) : Option StatusLine :=
  match splitMarker? line.trimStart with
  | none => none
  | some (marker, rest) =>
    if rest.leadingSpace.isEmpty || rest.trimStart.elem '\n' then none
    else some ⟨line.leadingSpace, marker, rest.trimStart⟩

/-- The marker with what stands before it and one space after it. -/
def lead (status : StatusLine) : Text := status.indent ++ status.marker ++ [' ']

/-- The column at which the description starts: after indent, marker and one space. -/
def indentWidth (status : StatusLine) : Nat :=
  status.indent.length + status.marker.length + 1

/-- The line with a gap of one space. -/
def render (status : StatusLine) : Text := status.lead ++ status.description

/-- The lines to print on a terminal `columns` wide, if the line does not fit as it is.
The description is wrapped to the columns right of the marker and aligned there. -/
def wrap? (status : StatusLine) (columns : Nat) : Option (List Text) :=
  if status.render.length ≤ columns then none
  else
    match Layout.wrap status.description status.indentWidth (columns - status.indentWidth) with
    | [] => some [status.lead]
    | first :: rest => some ((status.lead ++ first) :: rest)

end StatusLine

end Transcript
