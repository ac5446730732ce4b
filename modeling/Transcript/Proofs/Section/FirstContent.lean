import Mathlib.Data.Nat.Find
import Transcript.Proofs.Section.Verdict

/-!
# The first line that is not noise

The verdict on a section is made at the first line of the window that is not noise. If there is no
such line the section is empty. If there is one the section is empty exactly if that line ends it,
and then it is a divider and not the first line of the section. Indicators have no part in this.
-/

namespace Transcript.Heuristics

variable {heuristics : Heuristics}

/-- The line of the index is a divider and not noise. -/
def DividesAt (heuristics : Heuristics) (lines : List Text) (i : Nat) : Prop :=
  ∃ divider ∈ lines[i]?,
    heuristics.isNoise divider = false ∧ heuristics.isDivider divider = true

/-- The lines from the index `start` on and before `stop` are noise. -/
def NoiseBetween (heuristics : Heuristics) (lines : List Text) (start stop : Nat) : Prop :=
  ∀ i, start ≤ i → i < stop → ∀ line ∈ lines[i]?, heuristics.isNoise line = true

theorem endsAt_drop_iff {lines : List Text} {start i : Nat} :
    heuristics.EndsAt (lines.drop start) i ↔ 0 < i ∧ heuristics.DividesAt lines (start + i) := by
  rw [EndsAt, DividesAt, List.getElem?_drop]

/-- A section is empty when every line in the window that is not noise has an end of the section
at or before it. -/
theorem isEmptyFrom_iff_ends {lines : List Text} {start : Nat} :
    heuristics.isEmptyFrom lines start = true ↔
      ∀ i, start ≤ i → i < start + heuristics.window → ∀ line ∈ lines[i]?,
        heuristics.isNoise line = false →
          ∃ j, start < j ∧ j ≤ i ∧ heuristics.DividesAt lines j := by
  rw [isEmptyFrom, isEmptySection_eq_true_iff]
  constructor
  · intro hends i hstart hwindow line hline hcontent
    obtain ⟨k, rfl⟩ := Nat.exists_eq_add_of_le hstart
    rw [← List.getElem?_drop] at hline
    obtain ⟨j, hle, hend⟩ := hends k (Nat.lt_of_add_lt_add_left hwindow) line hline hcontent
    obtain ⟨hpos, hdivides⟩ := endsAt_drop_iff.mp hend
    exact ⟨start + j, Nat.lt_add_of_pos_right hpos, Nat.add_le_add_left hle start, hdivides⟩
  · intro hends k hwindow line hline hcontent
    rw [List.getElem?_drop] at hline
    obtain ⟨j, hlt, hle, hdivides⟩ := hends (start + k) (Nat.le_add_right start k)
      (Nat.add_lt_add_left hwindow start) line hline hcontent
    obtain ⟨i, rfl⟩ := Nat.exists_eq_add_of_le (Nat.le_of_lt hlt)
    refine ⟨i, Nat.le_of_add_le_add_left hle, endsAt_drop_iff.mpr ⟨?_, hdivides⟩⟩
    omega

/-- Lines that are not all noise have a first that is not. -/
theorem exists_first_content {lines : List Text} {start stop : Nat}
    (hcontent : ¬ heuristics.NoiseBetween lines start stop) :
    ∃ first, start ≤ first ∧ first < stop ∧
      (∃ line ∈ lines[first]?, heuristics.isNoise line = false) ∧
      heuristics.NoiseBetween lines start first := by
  classical
  simp only [NoiseBetween, not_forall, Bool.not_eq_true] at hcontent
  have hexists : ∃ i, start ≤ i ∧ i < stop ∧
      ∃ line ∈ lines[i]?, heuristics.isNoise line = false := by
    obtain ⟨i, hstart, hstop, line, hline, hnoise⟩ := hcontent
    exact ⟨i, hstart, hstop, line, hline, hnoise⟩
  obtain ⟨hstart, hstop, hfirst⟩ := Nat.find_spec hexists
  refine ⟨Nat.find hexists, hstart, hstop, hfirst, ?_⟩
  intro i hle hlt line hline
  by_contra hnoise
  exact Nat.find_min hexists hlt
    ⟨hle, Nat.lt_trans hlt hstop, line, hline, Bool.eq_false_iff.mpr hnoise⟩

theorem NoiseBetween.stop_le {lines : List Text} {start stop i : Nat} {line : Text}
    (hnoise : heuristics.NoiseBetween lines start stop) (hstart : start ≤ i)
    (hline : line ∈ lines[i]?) (hcontent : heuristics.isNoise line = false) : stop ≤ i := by
  by_contra hlt
  have hnoisy := hnoise i hstart (Nat.lt_of_not_le hlt) line hline
  exact absurd hnoisy (Bool.eq_false_iff.mp hcontent)

/-- A section is empty exactly if the lines of the window are noise, or the first of them that is
not noise is a divider and not the first line of the section. -/
theorem isEmptyFrom_eq_true_iff {lines : List Text} {start : Nat} :
    heuristics.isEmptyFrom lines start = true ↔
      let stop := min (start + heuristics.window) lines.length
      heuristics.NoiseBetween lines start stop ∨
        ∃ first, start < first ∧ first < stop ∧ heuristics.DividesAt lines first ∧
          heuristics.NoiseBetween lines start first := by
  rw [isEmptyFrom_iff_ends]
  constructor
  · intro hends
    by_cases hnoise :
        heuristics.NoiseBetween lines start (min (start + heuristics.window) lines.length)
    · exact .inl hnoise
    · obtain ⟨first, hstart, hstop, ⟨line, hline, hcontent⟩, hbefore⟩ :=
        exists_first_content hnoise
      obtain ⟨j, hlt, hle, hdivides⟩ :=
        hends first hstart (Nat.lt_min.mp hstop).1 line hline hcontent
      -- The end found is not noise, so it is not before the first line that is not.
      have ⟨divider, hdivider, hcontent, _⟩ := hdivides
      obtain rfl : j = first :=
        Nat.le_antisymm hle (hbefore.stop_le (Nat.le_of_lt hlt) hdivider hcontent)
      exact .inr ⟨j, hlt, hstop, hdivides, hbefore⟩
  · intro hverdict i hstart hwindow line hline hcontent
    rcases hverdict with hnoise | ⟨first, hlt, _, hdivides, hbefore⟩
    · have hindex : i < lines.length := (List.getElem?_eq_some_iff.mp hline).1
      exact absurd (hnoise.stop_le hstart hline hcontent)
        (Nat.not_le_of_lt (Nat.lt_min.mpr ⟨hwindow, hindex⟩))
    · exact ⟨first, hlt, hbefore.stop_le hstart hline hcontent, hdivides⟩

/-! ## Other indicators -/

/-- The same heuristics with other indicators. -/
def withIndicators (heuristics : Heuristics) (indicators : List Text) : Heuristics :=
  { heuristics with indicators }

theorem isEmptySection_withIndicators (heuristics : Heuristics) (indicators body : List Text) :
    (heuristics.withIndicators indicators).isEmptySection body = heuristics.isEmptySection body := by
  rw [Bool.eq_iff_iff, isEmptySection_eq_true_iff, isEmptySection_eq_true_iff]
  rfl

end Transcript.Heuristics
