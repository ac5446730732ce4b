import Transcript.Segment

/-! # Formatting as a stream

Each segment is handed on as soon as it is decided, before the lines after it are
looked at again. What takes the lines is a sink in any monad, so that it may keep a
state, fail, or write to a terminal. A failure of the sink ends the walk.
-/

namespace Transcript

/-- What is worth telling about a decision. -/
inductive Notice where
  /-- The lines of the empty section with this header are shown in gray. -/
  | dimming (header : Text)
  /-- The status line of this index is wrapped to so many lines. -/
  | wrapping (index parts : Nat)
  deriving DecidableEq

/-- Where formatted lines and notices go. -/
structure Sink (m : Type → Type) where
  emit : Text → m Unit
  report : Notice → m Unit

namespace Segment

/-- The notice given before the segment that starts at the line of index `index`. -/
def notice? (index : Nat) : Segment → Option Notice
  | dimmed _ header => some (.dimming header.trim)
  | wrapped _ parts => some (.wrapping index parts.length)
  | kept _ => none

end Segment

namespace Sink

variable {m : Type → Type} [Monad m]

/-- Hands a segment to the sink: its notice, then its lines one by one. -/
def send (sink : Sink m) (color : Bool) (index : Nat) (segment : Segment) : m Unit := do
  match segment.notice? index with
  | some notice => sink.report notice
  | none => pure ()
  (segment.output color).forM sink.emit

end Sink

namespace Options

variable {m : Type → Type} [Monad m]

/-- Formats the lines from the one of index `index` on, given the counts so far. -/
def streamFrom (options : Options) (sink : Sink m) (index : Nat) (stats : Stats) :
    List Text → m Stats
  | [] => pure stats
  | [line] => do
    let segment := options.lineSegment line
    sink.send options.color index segment
    pure (stats + segment.stats)
  | line :: header :: body =>
    if options.announcesEmpty line header body then do
      let segment := Segment.dimmed line header
      sink.send options.color index segment
      options.streamFrom sink (index + 2) (stats + segment.stats) body
    else do
      let segment := options.lineSegment line
      sink.send options.color index segment
      options.streamFrom sink (index + 1) (stats + segment.stats) (header :: body)

/-- Formats the lines into a sink and counts. -/
def stream (options : Options) (sink : Sink m) (lines : List Text) : m Stats :=
  options.streamFrom sink 0 .zero lines

end Options

end Transcript
