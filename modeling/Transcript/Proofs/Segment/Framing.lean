import Transcript.Proofs.Segment.Reflow
import Transcript.Proofs.Text.Lines

/-!
# No line feed in a printed line

Wrapping puts blanks and words where the description had white space, and decorating adds two
terminal sequences. Neither writes a line feed, so the lines of a formatted text are the
formatted lines.
-/

namespace Transcript

namespace Text

theorem IsWord.lineFeed_not_mem {word : Text} (hword : IsWord word) : '\n' ∉ word :=
  fun hmem => Bool.false_ne_true ((hword.solid '\n' hmem).symm.trans isSpace_lineFeed)

theorem lineFeed_not_mem_blanks (width : Nat) : '\n' ∉ blanks width :=
  fun hmem => absurd (List.eq_of_mem_replicate hmem) (by decide)

theorem lineFeed_not_mem_joinWith {pieces : List Text} (hfree : ∀ piece ∈ pieces, '\n' ∉ piece) :
    '\n' ∉ joinWith [' '] pieces := by
  induction pieces with
  | nil => exact List.not_mem_nil
  | cons piece rest ih =>
      have hpiece := hfree piece List.mem_cons_self
      have hrest := ih fun other hmem => hfree other (List.mem_cons_of_mem piece hmem)
      cases rest with
      | nil => simpa [joinWith] using hpiece
      | cons next more =>
          rw [joinWith_cons_cons, List.mem_append, List.mem_append, not_or, not_or]
          exact ⟨⟨hpiece, by decide⟩, hrest⟩

end Text

namespace StatusLine

variable {status : StatusLine} {columns : Nat} {part : Text}

theorem Written.lineFeed_not_mem_lead {gap line : Text} (hwritten : Written status gap line)
    (hfree : '\n' ∉ line) : '\n' ∉ status.lead := by
  rw [hwritten.line_eq_indent_append, List.mem_append, not_or] at hfree
  rw [lead, List.mem_append, List.mem_append, not_or, not_or]
  exact ⟨⟨hfree.1, hwritten.marker.isWord.lineFeed_not_mem⟩, by decide⟩

theorem lineFeed_not_mem_words {words : List Text}
    (hwords : ∀ word ∈ words, word ∈ status.description.words) :
    '\n' ∉ Text.joinWith [' '] words :=
  Text.lineFeed_not_mem_joinWith fun word hword =>
    (Text.isWord_of_mem_words (hwords word hword)).lineFeed_not_mem

theorem Opens.lineFeed_not_mem (hopens : Opens status columns part) (hlead : '\n' ∉ status.lead) :
    '\n' ∉ part := by
  cases hopens with
  | bare => exact hlead
  | packed hwords =>
      rw [List.mem_append, not_or]
      exact ⟨hlead, lineFeed_not_mem_words hwords⟩
  | pushed hword =>
      rw [List.mem_append, List.mem_append, not_or, not_or]
      exact ⟨hlead, Text.lineFeed_not_mem_blanks _,
        (Text.isWord_of_mem_words hword).lineFeed_not_mem⟩

theorem Continues.lineFeed_not_mem (hcontinues : Continues status columns part) :
    '\n' ∉ part := by
  cases hcontinues with
  | packed hwords =>
      rw [List.mem_append, not_or]
      exact ⟨Text.lineFeed_not_mem_blanks _, lineFeed_not_mem_words hwords⟩
  | lone hword =>
      rw [List.mem_append, not_or]
      exact ⟨Text.lineFeed_not_mem_blanks _, (Text.isWord_of_mem_words hword).lineFeed_not_mem⟩

end StatusLine

theorem Decoration.lineFeed_not_mem_dimIf {text : Text} (hfree : '\n' ∉ text) (color : Bool) :
    '\n' ∉ dimIf color text := by
  unfold dimIf
  split
  · rw [dim, List.mem_append, List.mem_append, not_or, not_or]
    exact ⟨⟨by decide, hfree⟩, by decide⟩
  · exact hfree

namespace Options

variable {options : Options}

theorem lineFeed_not_mem_reflow {line printed : Text} (hfree : '\n' ∉ line)
    (hprinted : printed ∈ options.reflow line) : '\n' ∉ printed := by
  rcases reflow_cases options line with ⟨_, hkept⟩ | ⟨status, gap, first, rest, hwritten, hparts,
    hopens, hcontinues⟩
  · rw [hkept, List.mem_singleton] at hprinted
    rw [hprinted]
    exact hfree
  · rw [hparts] at hprinted
    rcases List.mem_cons.mp hprinted with rfl | hrest
    · exact hopens.lineFeed_not_mem (hwritten.lineFeed_not_mem_lead hfree)
    · exact (hcontinues printed hrest).lineFeed_not_mem

/-- Lines without line feeds are formatted to lines without line feeds. -/
theorem lineFeed_not_mem_formatLines {lines : List Text} (hfree : ∀ line ∈ lines, '\n' ∉ line) :
    ∀ printed ∈ options.formatLines lines, '\n' ∉ printed := by
  induction lines using walk_induction options with
  | nil => exact fun _ hmem => absurd hmem List.not_mem_nil
  | line line rest hopens ih =>
      intro printed hprinted
      rw [formatLines_of_not_opensEmpty hopens, output_eq_reflow] at hprinted
      rcases List.mem_append.mp hprinted with hline | hrest
      · exact lineFeed_not_mem_reflow (hfree line List.mem_cons_self) hline
      · exact ih (fun other hmem => hfree other (List.mem_cons_of_mem line hmem)) printed hrest
  | dimmed divider header body hopens ih =>
      intro printed hprinted
      rw [formatLines_of_opensEmpty hopens] at hprinted
      rcases List.mem_cons.mp hprinted with rfl | hprinted
      · exact Decoration.lineFeed_not_mem_dimIf (hfree divider List.mem_cons_self) _
      rcases List.mem_cons.mp hprinted with rfl | hbody
      · exact Decoration.lineFeed_not_mem_dimIf
          (hfree header (List.mem_cons_of_mem divider List.mem_cons_self)) _
      · exact ih (fun other hmem =>
          hfree other (List.mem_cons_of_mem divider (List.mem_cons_of_mem header hmem)))
            printed hbody

theorem lineFeed_not_mem_formatted (options : Options) (text : Text) :
    ∀ printed ∈ options.formatLines text.splitLines, '\n' ∉ printed :=
  lineFeed_not_mem_formatLines fun _ => Text.lineFeed_not_mem_of_mem_splitLines

/-- The lines of a formatted text are the formatted lines. -/
theorem splitLines_formatText (options : Options) (text : Text) :
    (options.formatText text).splitLines = options.formatLines text.splitLines :=
  Text.splitLines_joinLines (options.lineFeed_not_mem_formatted text)

end Options

end Transcript
