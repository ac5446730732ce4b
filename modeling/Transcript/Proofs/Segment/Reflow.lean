import Transcript.Proofs.Segment.Position
import Transcript.Proofs.StatusLine.Parts

/-!
# Lines decided on alone

Outside the dimmed pairs every line is printed by itself: as it stands, or in the parts of the
status line that it writes.
-/

namespace Transcript.Options

variable {options : Options}

/-- What is printed for a line that is decided on alone. -/
def reflow (options : Options) (line : Text) : List Text := (options.wrapped? line).getD [line]

theorem output_eq_reflow (options : Options) (line : Text) :
    (options.lineSegment line).output options.color = options.reflow line :=
  output_lineSegment line

theorem eq_lineSegment_of_source {lines : List Text} {segment : Segment} {line : Text}
    (hmem : segment ∈ options.segments lines) (hsource : segment.source = [line]) :
    segment = options.lineSegment line := by
  rcases mem_segments hmem with ⟨divider, header, rfl⟩ | ⟨other, _, rfl⟩
  · cases hsource
  · rw [source_lineSegment] at hsource
    cases hsource
    rfl

theorem reflow_of_wrapped? {line : Text} (hwrapped : options.wrapped? line = none) :
    options.reflow line = [line] := by
  rw [reflow, hwrapped, Option.getD_none]

theorem wrapped?_of_written {status : StatusLine} {gap line : Text}
    (hwritten : StatusLine.Written status gap line) :
    options.wrapped? line = status.wrap? options.columns := by
  rw [wrapped?, hwritten.parse?_eq, Option.bind_some]

theorem reflow_of_fits {line : Text}
    (hfits : ∀ status ∈ StatusLine.parse? line, status.render.length ≤ options.columns) :
    options.reflow line = [line] := by
  apply reflow_of_wrapped?
  rw [wrapped?, Option.bind_eq_none_iff]
  intro status hparse
  exact StatusLine.wrap?_eq_none_iff.mpr (hfits status hparse)

/-- A line is printed as it stands, or in the parts of the status line that it writes. -/
theorem reflow_cases (options : Options) (line : Text) :
    (options.wrapped? line = none ∧ options.reflow line = [line]) ∨
      ∃ status gap first rest, StatusLine.Written status gap line ∧
        options.reflow line = first :: rest ∧ StatusLine.Opens status options.columns first ∧
        ∀ part ∈ rest, StatusLine.Continues status options.columns part := by
  cases hwrapped : options.wrapped? line with
  | none => exact .inl ⟨rfl, reflow_of_wrapped? hwrapped⟩
  | some parts =>
      obtain ⟨status, hparse, hwrap⟩ := Option.bind_eq_some_iff.mp hwrapped
      obtain ⟨gap, hwritten⟩ := StatusLine.written_of_parse? hparse
      obtain ⟨first, rest, rfl, hopens, hcontinues⟩ :=
        StatusLine.parts_of_wrap? hwritten.description_solid hwrap
      have hreflow : options.reflow line = first :: rest := by
        rw [reflow, hwrapped, Option.getD_some]
      exact .inr ⟨status, gap, first, rest, hwritten, hreflow, hopens, hcontinues⟩

end Transcript.Options
