import Transcript.Section
import Transcript.StatusLine

/-! # Segments of a transcript

Formatting cuts a transcript into segments: the divider and header of an empty
section, a status line that has to be wrapped, or any other line. The output is what
the segments print, in order, and the statistics are the sum over the segments.
-/

namespace Transcript

/-! ## Gray lines -/

namespace Decoration

/-- The terminal sequence that turns the foreground gray. -/
def gray : Text := ['\x1b', '[', '9', '0', 'm']

/-- The terminal sequence that ends every decoration. -/
def reset : Text := ['\x1b', '[', '0', 'm']

/-- A text shown in gray. -/
def dim (text : Text) : Text := gray ++ text ++ reset

/-- A text shown in gray if colour is on, and as it stands otherwise. -/
def dimIf (color : Bool) (text : Text) : Text := if color then dim text else text

end Decoration

/-! ## Options and counts -/

/-- Everything formatting depends on besides the lines. -/
structure Options where
  /-- The columns of the terminal. -/
  columns : Nat
  /-- Whether the lines of empty sections are shown in gray. -/
  color : Bool
  /-- How empty sections are recognised. -/
  heuristics : Heuristics
  deriving DecidableEq

/-- Counts over a formatted transcript. -/
structure Stats where
  linesIn : Nat
  linesOut : Nat
  sectionsDimmed : Nat
  linesWrapped : Nat
  deriving DecidableEq

namespace Stats

/-- The counts over no line. -/
def zero : Stats := ⟨0, 0, 0, 0⟩

instance : Add Stats where
  add a b := ⟨a.linesIn + b.linesIn, a.linesOut + b.linesOut,
    a.sectionsDimmed + b.sectionsDimmed, a.linesWrapped + b.linesWrapped⟩

end Stats

/-! ## Segments -/

/-- Lines of a transcript that are decided on together. -/
inductive Segment where
  /-- The divider and the header of an empty section. -/
  | dimmed (divider header : Text)
  /-- A status line and the lines it is wrapped to. -/
  | wrapped (line : Text) (parts : List Text)
  /-- A line that stays as it is. -/
  | kept (line : Text)
  deriving DecidableEq

namespace Segment

/-- The lines of the transcript the segment stands for. -/
def source : Segment → List Text
  | dimmed divider header => [divider, header]
  | wrapped line _ => [line]
  | kept line => [line]

/-- The lines the segment prints. -/
def output (color : Bool) : Segment → List Text
  | dimmed divider header => [Decoration.dimIf color divider, Decoration.dimIf color header]
  | wrapped _ parts => parts
  | kept line => [line]

/-- What the segment adds to the counts. -/
def stats : Segment → Stats
  | dimmed _ _ => ⟨2, 2, 1, 0⟩
  | wrapped _ parts => ⟨1, parts.length, 0, 1⟩
  | kept _ => ⟨1, 1, 0, 0⟩

end Segment

namespace Options

/-- The usual width of a terminal. -/
def defaultColumns : Nat := 120

/-- Formatting for the usual width, with colour. -/
def default : Options := ⟨defaultColumns, true, Heuristics.default⟩

/-- Whether a line and the one after it announce a section that is empty, as far as the
lines in `body` show. -/
def announcesEmpty (options : Options) (line header : Text) (body : List Text) : Bool :=
  options.heuristics.isDivider line && options.heuristics.isHeader header
    && options.heuristics.isEmptySection body

/-- The segment of a line that announces no empty section. -/
def lineSegment (options : Options) (line : Text) : Segment :=
  match (StatusLine.parse? line).bind (·.wrap? options.columns) with
  | some parts => .wrapped line parts
  | none => .kept line

/-- The segments of a transcript. -/
def segments (options : Options) : List Text → List Segment
  | [] => []
  | [line] => [options.lineSegment line]
  | line :: header :: body =>
    if options.announcesEmpty line header body then
      .dimmed line header :: options.segments body
    else options.lineSegment line :: options.segments (header :: body)

/-- The lines of a formatted transcript. -/
def formatLines (options : Options) (lines : List Text) : List Text :=
  (options.segments lines).flatMap (·.output options.color)

/-- A formatted transcript, every line ended by a line feed. -/
def formatText (options : Options) (text : Text) : Text :=
  Text.joinLines (options.formatLines text.splitLines)

end Options

end Transcript
