import Transcript.Proofs.StatusLine.Parts

/-!
# The normal form of a status line

A line is read as a status line exactly if it is an indentation, a marker, a gap of white space
and a description, and it can be divided in one way only. Printing what was read leaves a gap of
one space. The line printed is read as the same status line, and no line that is read so is
shorter.
-/

namespace Transcript.StatusLine

namespace Written

variable {status other : StatusLine} {gap otherGap line : Text}

theorem gap_eq (hwritten : Written status gap line)
    (hline : line = status.indent ++ status.marker ++ otherGap ++ status.description) :
    gap = otherGap := by
  have hsame := hwritten.line_eq.symm.trans hline
  exact List.append_cancel_left (List.append_cancel_right hsame)

/-- A line can be divided in one way only. -/
theorem unique (hwritten : Written status gap line) (hother : Written other otherGap line) :
    status = other ∧ gap = otherGap := by
  have hstatus : status = other :=
    Option.some.inj (hwritten.parse?_eq.symm.trans hother.parse?_eq)
  subst hstatus
  exact ⟨rfl, hwritten.gap_eq hother.line_eq⟩

end Written

/-- A line is read as a status line exactly if it writes that status line, which it does with a
single gap, and it writes no other. Printed with a gap of one space the status line is read back,
and it is as long as its indentation and its description together and no longer than the line. -/
theorem parse?_iff_written (line : Text) :
    (∀ status, parse? line = some status ↔ ∃ gap, Written status gap line) ∧
      (∀ status gap other otherGap, Written status gap line → Written other otherGap line →
        status = other ∧ gap = otherGap) ∧
      ∀ status, parse? line = some status →
        parse? status.render = some status ∧
          status.render.length = status.indentWidth + status.description.length ∧
          status.render.length ≤ line.length := by
  refine ⟨?_, ?_, ?_⟩
  · intro status
    constructor
    · exact written_of_parse?
    · rintro ⟨gap, hwritten⟩
      exact hwritten.parse?_eq
  · intro status gap other otherGap hwritten hother
    exact hwritten.unique hother
  · intro status hparse
    obtain ⟨gap, hwritten⟩ := written_of_parse? hparse
    exact ⟨hwritten.render.parse?_eq, length_render status, hwritten.length_render_le⟩

/-- The gap holds a line feed and the indentation a space that does not break, and the description
keeps its own white space. -/
theorem parse?_iff_written_brokenGap :
    let line : Text := "\u00a0 12)\t\n\u2003boom  x ".toList
    let status : StatusLine := ⟨"\u00a0 ".toList, "12)".toList, "boom  x ".toList⟩
    parse? line = some status ∧ Written status "\t\n\u2003".toList line ∧
      parse? status.render = some status ∧ status.render = "\u00a0 12) boom  x ".toList ∧
      (∀ other gap, Written other gap line → other = status ∧ gap = "\t\n\u2003".toList) := by
  intro line status
  have hparse : parse? line = some status := by decide
  obtain ⟨hread, honly, hprinted⟩ := parse?_iff_written line
  obtain ⟨gap, hwritten⟩ := (hread status).mp hparse
  obtain rfl : gap = "\t\n\u2003".toList := hwritten.gap_eq rfl
  exact ⟨hparse, hwritten, (hprinted status hparse).1, rfl,
    fun other gap hother => honly other gap status _ hother hwritten⟩

end Transcript.StatusLine
