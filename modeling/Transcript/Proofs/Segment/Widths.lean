import Transcript.Proofs.Segment.Reflow

/-!
# Printed status lines and the terminal

Whether a status line fits is decided for the line with a gap of one space. One that does
not fit is wrapped, and what is printed for it fits but for words that are too long. One that
fits is printed as it stands, with the gap it has, and only that gap can make it too long.
-/

namespace Transcript.Options

/-- A status line with a description is printed in lines that fit the terminal. A longer
line holds a single word that does not fit behind the marker, or it is the status line as it
stands: with a gap of one space it would fit, but its gap is wider. -/
theorem printed_fits (options : Options) (lines : List Text) {segment : Segment}
    (hsegment : segment ∈ options.segments lines) {line : Text} (hsource : segment.source = [line])
    {status : StatusLine} (hparse : StatusLine.parse? line = some status)
    (hdescription : status.description ≠ []) :
    ∀ printed ∈ segment.output options.color,
      printed.length ≤ options.columns ∨
      (∃ word ∈ status.description.words, options.columns < word.length + status.indentWidth ∧
        (printed = status.lead ++ (Text.blanks status.indentWidth ++ word) ∨
          printed = Text.blanks status.indentWidth ++ word)) ∨
      (printed = line ∧ status.render.length ≤ options.columns ∧
        ∃ gap, StatusLine.Written status gap line ∧ 1 < gap.length) := by
  obtain rfl := eq_lineSegment_of_source hsegment hsource
  intro printed hprinted
  rw [output_eq_reflow] at hprinted
  rcases reflow_cases options line with ⟨hnone, hkept⟩ | ⟨other, gap, first, rest, hwritten, hparts,
    hopens, hcontinues⟩
  · obtain ⟨gap, hwritten⟩ := StatusLine.written_of_parse? hparse
    obtain rfl : printed = line := List.mem_singleton.mp (hkept ▸ hprinted)
    have hrender := StatusLine.wrap?_eq_none_iff.mp ((wrapped?_of_written hwritten).symm.trans hnone)
    have hlength := hwritten.length_eq
    rcases Nat.lt_or_ge 1 gap.length with hwide | hnarrow
    · exact .inr (.inr ⟨rfl, hrender, gap, hwritten, hwide⟩)
    · exact .inl (by omega)
  · obtain rfl : status = other := Option.some.inj (hparse.symm.trans hwritten.parse?_eq)
    rcases List.mem_cons.mp (hparts ▸ hprinted) with rfl | hrest
    · cases hopens with
      | bare hempty => exact absurd hempty hdescription
      | packed hwords hfits => exact .inl hfits
      | pushed hword hlong => exact .inr (.inl ⟨_, hword, Nat.add_comm _ _ ▸ hlong, .inl rfl⟩)
    · cases hcontinues printed hrest with
      | packed hwords hfits => exact .inl hfits
      | lone hword hlong => exact .inr (.inl ⟨_, hword, Nat.add_comm _ _ ▸ hlong, .inr rfl⟩)

/-- A status line whose first word does not fit behind its marker in four columns. -/
def longWord : Text := "* abc d".toList

theorem printed_fits_longWord :
    Segment.wrapped longWord ["*   abc".toList, "  d".toList] ∈ narrow.segments [longWord] ∧
      StatusLine.parse? longWord = some ⟨[], ['*'], "abc d".toList⟩ ∧
      narrow.columns < "*   abc".toList.length ∧
      ∃ word ∈ Text.words "abc d".toList, narrow.columns < word.length + 2 := by
  have hsegment : Segment.wrapped longWord ["*   abc".toList, "  d".toList] ∈
      narrow.segments [longWord] := by decide
  have hparse : StatusLine.parse? longWord = some ⟨[], ['*'], "abc d".toList⟩ := by decide
  refine ⟨hsegment, hparse, by decide, ?_⟩
  rcases printed_fits narrow [longWord] hsegment rfl hparse (by decide) "*   abc".toList (by decide)
    with hfits | ⟨word, hword, hlong, _⟩ | ⟨_, hrender, _⟩
  · exact absurd hfits (by decide)
  · exact ⟨word, hword, hlong⟩
  · exact absurd hrender (by decide)

/-- A status line that fits four columns but for its wide gap. -/
def wideGap : Text := "*   a".toList

/-- A wide gap makes a status line too long although its only word fits. -/
theorem wideGap_overflows :
    ¬ ∀ segment ∈ narrow.segments [wideGap], segment.source = [wideGap] →
      ∀ status, StatusLine.parse? wideGap = some status → status.description ≠ [] →
        ∀ printed ∈ segment.output narrow.color, printed.length ≤ narrow.columns ∨
          ∃ word ∈ status.description.words,
            narrow.columns < word.length + status.indentWidth := by
  intro hfits
  have hprinted := hfits (.kept wideGap) (by decide) rfl ⟨[], ['*'], ['a']⟩ (by decide) (by decide)
    wideGap (by decide)
  revert hprinted
  decide

end Transcript.Options
