import Transcript.Proofs.Section.Verdict
import Transcript.Proofs.Segment.Position

/-!
# Sections that show a result

A line in the window that is not noise keeps a section from being dimmed, as long as no
divider stands between the start of the section and that line. So a section that reports a result
before any divider is kept, unless all its lines up to the result are noise. Noise is passed over
first, so a result on a line of noise does not count.
-/

namespace Transcript

theorem Heuristics.isEmptyFrom_of_content {heuristics : Heuristics} {lines : List Text}
    {start k : Nat} {line : Text} (hstart : start ≤ k) (hwindow : k < start + heuristics.window)
    (hline : line ∈ lines[k]?) (hcontent : heuristics.isNoise line = false)
    (hdivider : ∀ j, start < j → j ≤ k → ∀ other ∈ lines[j]?,
      heuristics.isDivider other = false) :
    heuristics.isEmptyFrom lines start = false := by
  have hindex : line ∈ (lines.drop start)[k - start]? := by
    rw [List.getElem?_drop, Nat.add_sub_cancel' hstart]
    exact hline
  apply isEmptySection_of_content (Nat.sub_lt_left_of_lt_add hstart hwindow) hindex hcontent
  intro j hle hends
  obtain ⟨hpos, other, hother, _, hdivides⟩ := hends
  rw [List.getElem?_drop] at hother
  have hfalse := hdivider (start + j) (by omega) (by omega) other hother
  exact Bool.false_ne_true (hfalse.symm.trans hdivides)

namespace Options

/-- A section is not empty if some line from its start to a line in the window is not noise and
none of them after the first is a divider. Then no segment of the transcript dims its divider and
header. In particular this holds where a result is reported; whether the last of these lines, or any
other, reports one has no part in it. -/
theorem content_not_dimmed (options : Options) (lines : List Text) {start k : Nat}
    (hwindow : k < start + options.heuristics.window)
    (hcontent : ∃ i, start ≤ i ∧ i ≤ k ∧
      ∃ line ∈ lines[i]?, options.heuristics.isNoise line = false)
    (hdivider : ∀ j, start < j → j ≤ k → ∀ other ∈ lines[j]?,
      options.heuristics.isDivider other = false) :
    options.heuristics.isEmptyFrom lines start = false ∧
      ∀ passed divider header ahead,
        options.segments lines = passed ++ .dimmed divider header :: ahead →
          (passed.flatMap Segment.source).length + 2 ≠ start := by
  obtain ⟨i, hstart, hle, line, hline, hnoise⟩ := hcontent
  have hempty : options.heuristics.isEmptyFrom lines start = false := by
    refine Heuristics.isEmptyFrom_of_content hstart (Nat.lt_of_le_of_lt hle hwindow) hline hnoise ?_
    intro j hlt hbefore
    exact hdivider j hlt (Nat.le_trans hbefore hle)
  refine ⟨hempty, ?_⟩
  intro passed divider header ahead hcut hindex
  have hannounces := announcesAt_of_dimmed hcut
  simp only [announcesAt, Bool.and_eq_true] at hannounces
  rw [hindex, hempty] at hannounces
  exact Bool.false_ne_true hannounces.2

/-- A transcript whose only section reports its result on a line of noise, behind one that is
not. -/
def noisyEnd : List Text :=
  ["==========", "Testing: a_spec.lua", "", "loading", "✓ plugin initialized"].map String.toList

theorem content_not_dimmed_noisyEnd :
    default.heuristics.hasIndicator "✓ plugin initialized".toList = true ∧
      default.heuristics.isNoise "✓ plugin initialized".toList = true ∧
      default.heuristics.isEmptyFrom noisyEnd 2 = false ∧
      default.formatLines noisyEnd = noisyEnd := by
  have hcontent : ∃ i, 2 ≤ i ∧ i ≤ 4 ∧
      ∃ line ∈ noisyEnd[i]?, default.heuristics.isNoise line = false :=
    ⟨3, by decide, by decide, "loading".toList, rfl, by decide +kernel⟩
  have hdivider : ∀ j, 2 < j → j ≤ 4 → ∀ other ∈ noisyEnd[j]?,
      default.heuristics.isDivider other = false := by
    intro j hlow hhigh other hother
    obtain rfl | rfl : j = 3 ∨ j = 4 := by omega
    all_goals
      cases hother
      decide
  have hkept := content_not_dimmed default noisyEnd (by decide) hcontent hdivider
  exact ⟨by decide +kernel, by decide +kernel, hkept.1, by decide +kernel⟩

/-- A transcript whose only section reports its result on a line that is noise. -/
def noisyResult : List Text :=
  ["==========", "Testing: a_spec.lua", "✓ plugin initialized"].map String.toList

/-- A result on a line of noise does not keep its section from being dimmed. -/
theorem noisyResult_dimmed :
    ¬ ∀ (start k : Nat) (line : Text), start ≤ k → k < start + default.heuristics.window →
      line ∈ noisyResult[k]? → default.heuristics.hasIndicator line = true →
      (∀ j, start < j → j ≤ k → ∀ other ∈ noisyResult[j]?,
        default.heuristics.isDivider other = false) →
      default.heuristics.isEmptyFrom noisyResult start = false := by
  intro hnever
  have hindicator : default.heuristics.hasIndicator "✓ plugin initialized".toList = true := by
    decide +kernel
  have hempty : default.heuristics.isEmptyFrom noisyResult 2 = true := by decide +kernel
  have hfalse := hnever 2 2 _ (Nat.le_refl 2) (by decide) rfl hindicator
    fun j hlt hle => absurd hle (Nat.not_le_of_lt hlt)
  exact Bool.false_ne_true (hfalse.symm.trans hempty)

end Options

end Transcript
