import Transcript.Proofs.Layout.Words
import Transcript.Proofs.Segment.Walk
import Transcript.Proofs.StatusLine.Grammar
import Transcript.Proofs.Text.Lines

/-!
# Formatting keeps the words

Whichever way the walk decides on a line, what it prints holds the words of that line.
Decorations stick to the words they surround, so in a coloured output they are taken off
first, and only where formatting put them.
-/

namespace Transcript

/-! ## Status lines -/

namespace StatusLine

/-- A wrapped status line prints the words of the line. -/
theorem flatMap_words_of_wrap? {status : StatusLine} {gap line : Text}
    (hwritten : Written status gap line) {columns : Nat} {parts : List Text}
    (hwrap : status.wrap? columns = some parts) : parts.flatMap Text.words = Text.words line := by
  have hwords := Layout.flatMap_words_wrap status.description status.indentWidth
    (columns - status.indentWidth)
  rw [hwritten.words, ← hwords]
  unfold wrap? at hwrap
  split at hwrap
  next => simp at hwrap
  next =>
    split at hwrap
    next hlayout =>
      cases hwrap
      have hlead := hwritten.words_lead_append []
      rw [List.append_nil, Text.words_nil] at hlead
      rw [hlayout, List.flatMap_singleton, hlead, List.flatMap_nil]
    next first rest hlayout =>
      cases hwrap
      rw [hlayout, List.flatMap_cons, hwritten.words_lead_append, List.flatMap_cons,
        List.cons_append]

end StatusLine

namespace Options

variable {options : Options}

theorem flatMap_words_of_wrapped? {line : Text} {parts : List Text}
    (hwrapped : options.wrapped? line = some parts) :
    parts.flatMap Text.words = Text.words line := by
  obtain ⟨status, hparse, hwrap⟩ := Option.bind_eq_some_iff.mp hwrapped
  obtain ⟨gap, hwritten⟩ := StatusLine.written_of_parse? hparse
  exact StatusLine.flatMap_words_of_wrap? hwritten hwrap

/-- A line that is decided on alone prints its words. -/
theorem flatMap_words_lineSegment (line : Text) :
    ((options.lineSegment line).output options.color).flatMap Text.words = Text.words line := by
  rw [output_lineSegment]
  cases hwrapped : options.wrapped? line with
  | none => rw [Option.getD_none, List.flatMap_singleton]
  | some parts => rw [Option.getD_some, flatMap_words_of_wrapped? hwrapped]

/-- Without colour the formatted lines hold the words of the lines, in order. -/
theorem flatMap_words_formatLines (hcolor : options.color = false) (lines : List Text) :
    (options.formatLines lines).flatMap Text.words = lines.flatMap Text.words := by
  induction lines using walk_induction options with
  | nil => rfl
  | line line rest hopens ih =>
      rw [formatLines_of_not_opensEmpty hopens, List.flatMap_append, flatMap_words_lineSegment, ih,
        List.flatMap_cons]
  | dimmed divider header body hopens ih =>
      have hplain (text : Text) : Decoration.dimIf options.color text = text := by
        rw [hcolor]
        rfl
      rw [formatLines_of_opensEmpty hopens, hplain, hplain]
      simp only [List.flatMap_cons, ih]

end Options

/-! ## Decorations -/

/-- The text between the sequences around a text shown in gray. -/
def Decoration.strip (text : Text) : Text :=
  (text.drop gray.length).take (text.length - (gray.length + reset.length))

theorem Decoration.strip_dim (text : Text) : strip (dim text) = text := by
  simp [strip, dim, Nat.add_left_comm]

/-- Decorates the lines that are marked. -/
def Decoration.dimMarked (marks : List Bool) (lines : List Text) : List Text :=
  List.zipWith dimIf marks lines

/-- Takes the decoration off the lines that are marked. -/
def Decoration.stripMarked (marks : List Bool) (lines : List Text) : List Text :=
  List.zipWith (fun marked line => if marked then strip line else line) marks lines

theorem Decoration.stripMarked_dimMarked {marks : List Bool} {lines : List Text}
    (hlength : marks.length = lines.length) :
    stripMarked marks (dimMarked marks lines) = lines := by
  induction lines generalizing marks with
  | nil =>
      rw [List.eq_nil_of_length_eq_zero hlength]
      rfl
  | cons line rest ih =>
      obtain ⟨marked, more, rfl⟩ := List.exists_cons_of_length_eq_add_one hlength
      have hrest := ih (Nat.succ.inj hlength)
      cases marked with
      | false => exact congrArg (line :: ·) hrest
      | true =>
          change strip (dim line) :: stripMarked more (dimMarked more rest) = line :: rest
          rw [strip_dim, hrest]

/-- Which of the lines a segment prints are decorated when colour is on. -/
def Segment.marks : Segment → List Bool
  | dimmed _ _ => [true, true]
  | wrapped _ parts => parts.map fun _ => false
  | kept _ => [false]

/-- Which of the formatted lines are decorated when colour is on. -/
def Options.marks (options : Options) (lines : List Text) : List Bool :=
  (options.segments lines).flatMap Segment.marks

theorem Segment.dimMarked_output (segment : Segment) :
    Decoration.dimMarked segment.marks (segment.output false) = segment.output true := by
  cases segment with
  | dimmed divider header => rfl
  | wrapped line parts =>
      induction parts with
      | nil => rfl
      | cons part rest ih => exact congrArg (part :: ·) ih
  | kept line => rfl

theorem Segment.length_marks (segment : Segment) (color : Bool) :
    segment.marks.length = (segment.output color).length := by
  cases segment with
  | dimmed divider header => rfl
  | wrapped line parts => exact List.length_map _
  | kept line => rfl

theorem Segment.length_flatMap_marks (segments : List Segment) (color : Bool) :
    (segments.flatMap marks).length = (segments.flatMap (output color)).length := by
  induction segments with
  | nil => rfl
  | cons segment rest ih =>
      rw [List.flatMap_cons, List.flatMap_cons, List.length_append, List.length_append,
        segment.length_marks color, ih]

/-- What segments print in colour is what they print without, decorated where marked. -/
theorem Segment.dimMarked_flatMap (segments : List Segment) :
    Decoration.dimMarked (segments.flatMap marks) (segments.flatMap (output false)) =
      segments.flatMap (output true) := by
  induction segments with
  | nil => rfl
  | cons segment rest ih =>
      rw [List.flatMap_cons, List.flatMap_cons, List.flatMap_cons, Decoration.dimMarked,
        List.zipWith_append (segment.length_marks false), ← dimMarked_output segment, ← ih]
      rfl

namespace Options

/-- Colour has no say in how a transcript is cut. -/
theorem segments_color (columns : Nat) (heuristics : Heuristics) (color other : Bool)
    (lines : List Text) :
    segments ⟨columns, color, heuristics⟩ lines = segments ⟨columns, other, heuristics⟩ lines := by
  induction lines using walk_induction ⟨columns, color, heuristics⟩ with
  | nil => rfl
  | line line rest hopens ih =>
      have hother : opensEmpty ⟨columns, other, heuristics⟩ (line :: rest) = false := hopens
      rw [segments_of_not_opensEmpty hopens, segments_of_not_opensEmpty hother, ih]
      rfl
  | dimmed divider header body hopens ih =>
      have hother : opensEmpty ⟨columns, other, heuristics⟩ (divider :: header :: body) = true :=
        hopens
      rw [segments_of_opensEmpty hopens, segments_of_opensEmpty hother, ih]

/-- In colour the formatted lines are those without, decorated where marked. -/
theorem formatLines_color (columns : Nat) (heuristics : Heuristics) (lines : List Text) :
    formatLines ⟨columns, true, heuristics⟩ lines =
      Decoration.dimMarked (marks ⟨columns, true, heuristics⟩ lines)
        (formatLines ⟨columns, false, heuristics⟩ lines) := by
  unfold marks formatLines
  rw [segments_color columns heuristics false true]
  exact (Segment.dimMarked_flatMap _).symm

/-- The formatted lines without their decorations are the lines formatted without colour. -/
theorem stripMarked_formatLines (columns : Nat) (heuristics : Heuristics) (lines : List Text) :
    Decoration.stripMarked (marks ⟨columns, true, heuristics⟩ lines)
        (formatLines ⟨columns, true, heuristics⟩ lines) =
      formatLines ⟨columns, false, heuristics⟩ lines := by
  rw [formatLines_color]
  apply Decoration.stripMarked_dimMarked
  unfold marks formatLines
  rw [segments_color columns heuristics false true]
  exact Segment.length_flatMap_marks _ _

/-! ## Texts -/

theorem words_joinLines_formatLines {options : Options} (hcolor : options.color = false)
    (text : Text) :
    Text.words (Text.joinLines (options.formatLines text.splitLines)) = Text.words text := by
  rw [Text.words_joinLines, flatMap_words_formatLines hcolor, Text.flatMap_words_splitLines]

/-- Formatting neither loses nor adds, divides nor moves a word of the transcript, whatever
the width and the heuristics. In colour this holds once the decorations are taken off the
marked lines, and putting them back gives the output again. -/
theorem words_formatText (columns : Nat) (heuristics : Heuristics) (text : Text) :
    Text.words (formatText ⟨columns, false, heuristics⟩ text) = Text.words text ∧
      let marks := marks ⟨columns, true, heuristics⟩ text.splitLines
      let printed := formatLines ⟨columns, true, heuristics⟩ text.splitLines
      let stripped := Decoration.stripMarked marks printed
      Text.words (Text.joinLines stripped) = Text.words text ∧
        formatText ⟨columns, true, heuristics⟩ text =
          Text.joinLines (Decoration.dimMarked marks stripped) := by
  refine ⟨words_joinLines_formatLines rfl text, ?_⟩
  dsimp only
  rw [stripMarked_formatLines, ← formatLines_color]
  exact ⟨words_joinLines_formatLines rfl text, rfl⟩

end Options

end Transcript
