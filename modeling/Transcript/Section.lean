import Transcript.Text.Lowercase
import Transcript.Text.Space

/-! # Empty sections

A section of a transcript is announced by a divider and a header. Whether it printed
any result is judged from a bounded number of lines after the header: lines of noise
are passed over, and the section is empty when nothing else is met before the next
divider or the end of the window.
-/

namespace Transcript

/-- What dividers, headers, results and noise look like. -/
structure Heuristics where
  /-- How many lines after a header are looked at. -/
  window : Nat
  /-- How many equals signs a divider begins with at least. -/
  dividerLength : Nat
  /-- What a header begins with. -/
  headerPrefix : Text
  /-- What shows that a line reports a result. -/
  indicators : List Text
  /-- What shows that a line is noise, in lowercase. -/
  noiseMarkers : List Text
  deriving DecidableEq

namespace Heuristics

/-- The heuristics for transcripts of the usual test runner. -/
def default : Heuristics where
  window := 15
  dividerLength := 10
  headerPrefix := "Testing:".toList
  indicators := ["✓", "✗", "Success", "Failure", "passed", "failed", "it(", "describe(",
    "PASS", "FAIL", "Error", "pending"].map String.toList
  noiseMarkers := ["initialized".toList]

/-- A divider begins, after white space, with a long enough run of equals signs. -/
def isDivider (heuristics : Heuristics) (line : Text) : Bool :=
  heuristics.dividerLength ≤ (line.trim.takeWhile (· = '=')).length

/-- A header begins, after white space, with the header prefix. -/
def isHeader (heuristics : Heuristics) (line : Text) : Bool :=
  heuristics.headerPrefix.isPrefixOf line.trim

/-- A line is noise when it is blank or holds a noise marker in any case. -/
def isNoise (heuristics : Heuristics) (line : Text) : Bool :=
  let content := line.trim
  content.isEmpty || heuristics.noiseMarkers.any content.toLower.includes

/-- A line reports a result when it holds an indicator, in the indicator's own case. -/
def hasIndicator (heuristics : Heuristics) (line : Text) : Bool :=
  heuristics.indicators.any line.trim.includes

/-- Whether a window shows no result. `atStart` says that its first line is the first of
the section, where a divider does not end it, and `content` counts the lines so far that
are neither noise nor results. -/
def scan (heuristics : Heuristics) (atStart : Bool) (content : Nat) : List Text → Bool
  | [] => content == 0
  | line :: rest =>
    if heuristics.isNoise line then heuristics.scan false content rest
    else if !atStart && heuristics.isDivider line then content == 0
    else if heuristics.hasIndicator line then false
    else heuristics.scan false (content + 1) rest

/-- Whether the section whose lines are the first of `body` is empty, as far as the
window shows. -/
def isEmptySection (heuristics : Heuristics) (body : List Text) : Bool :=
  heuristics.scan true 0 (body.take heuristics.window)

/-- Whether a section that starts at the line of index `start` is empty. -/
def isEmptyFrom (heuristics : Heuristics) (lines : List Text) (start : Nat) : Bool :=
  heuristics.isEmptySection (lines.drop start)

end Heuristics

end Transcript
