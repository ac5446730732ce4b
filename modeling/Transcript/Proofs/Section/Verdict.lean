import Transcript.Section

/-!
# The verdict on a section

A line is noise when it is blank or when its text in lowercase holds a marker somewhere. A
scan stops counting at the first line that is not noise: that line ends the section or
makes it non-empty for good. So a section is empty exactly when every line in the window
that is not noise has an end of the section at or before it, and the lines after the first
end have no say.
-/

namespace Transcript

theorem Text.includes_eq_true_iff {text piece : Text} :
    text.includes piece = true ↔ piece <:+: text := by
  induction text with
  | nil => simp [includes]
  | cons c rest ih =>
      rw [includes, Bool.or_eq_true, List.isPrefixOf_iff_prefix, ih, List.infix_cons_iff]

namespace Heuristics

variable {heuristics : Heuristics}

theorem isNoise_eq_true_iff {line : Text} :
    heuristics.isNoise line = true ↔
      line.trim = [] ∨ ∃ marker ∈ heuristics.noiseMarkers, marker <:+: line.trim.toLower := by
  simp [isNoise, Text.includes_eq_true_iff]

/-- The line of index `i` ends a section that opens with the first of the lines: it is a
divider, not noise, and not the first. -/
def EndsAt (heuristics : Heuristics) (body : List Text) (i : Nat) : Prop :=
  0 < i ∧ ∃ divider ∈ body[i]?,
    heuristics.isNoise divider = false ∧ heuristics.isDivider divider = true

theorem scan_of_content (atStart : Bool) (content : Nat) (lines : List Text) :
    heuristics.scan atStart (content + 1) lines = false := by
  induction lines generalizing atStart content with
  | nil => rfl
  | cons line rest ih =>
      unfold scan
      split
      · exact ih false content
      · split
        · rfl
        · split
          · rfl
          · exact ih false (content + 1)

theorem scan_of_isNoise {line : Text} (hnoise : heuristics.isNoise line = true) (atStart : Bool)
    (rest : List Text) :
    heuristics.scan atStart 0 (line :: rest) = heuristics.scan false 0 rest := by
  rw [scan, if_pos hnoise]

theorem scan_of_not_isNoise {line : Text} (hnoise : heuristics.isNoise line = false)
    (atStart : Bool) (rest : List Text) :
    heuristics.scan atStart 0 (line :: rest) = (!atStart && heuristics.isDivider line) := by
  rw [scan, if_neg (Bool.eq_false_iff.mp hnoise)]
  split
  next hends =>
    rw [hends]
    rfl
  next hends =>
    -- An indicator and content give the same verdict from here on.
    rw [Bool.eq_false_iff.mpr hends, scan_of_content, ite_self]

/-- A scan finds a section empty when every line that is not noise has a divider at or
before it that may end the section. -/
theorem scan_eq_true_iff (atStart : Bool) (lines : List Text) :
    heuristics.scan atStart 0 lines = true ↔
      ∀ k, ∀ line ∈ lines[k]?, heuristics.isNoise line = false →
        ∃ j ≤ k, (atStart = true → 0 < j) ∧ ∃ divider ∈ lines[j]?,
          heuristics.isNoise divider = false ∧ heuristics.isDivider divider = true := by
  -- After a line of noise a divider may end the section, so the induction is for both values.
  induction lines generalizing atStart with
  | nil => simp [scan]
  | cons first rest ih =>
      cases hnoise : heuristics.isNoise first with
      | true =>
          rw [scan_of_isNoise hnoise, ih]
          constructor
          · intro hends k line hline hcontent
            cases k with
            | zero =>
                cases hline
                exact absurd hnoise (Bool.eq_false_iff.mp hcontent)
            | succ k =>
                obtain ⟨j, hle, _, hdivider⟩ := hends k line hline hcontent
                exact ⟨j + 1, Nat.succ_le_succ hle, fun _ => Nat.succ_pos j, hdivider⟩
          · intro hends k line hline hcontent
            obtain ⟨j, hle, _, divider, hdivider, hnot, hdivides⟩ :=
              hends (k + 1) line hline hcontent
            cases j with
            | zero =>
                cases hdivider
                exact absurd hnoise (Bool.eq_false_iff.mp hnot)
            | succ j =>
                exact ⟨j, Nat.le_of_succ_le_succ hle, fun hstart => Bool.noConfusion hstart,
                  divider, hdivider, hnot, hdivides⟩
      | false =>
          rw [scan_of_not_isNoise hnoise]
          constructor
          · intro hends k line hline hcontent
            simp only [Bool.and_eq_true, Bool.not_eq_true'] at hends
            exact ⟨0, Nat.zero_le k, fun hstart => absurd hstart (Bool.eq_false_iff.mp hends.1),
              first, rfl, hnoise, hends.2⟩
          · intro hends
            obtain ⟨j, hle, hstart, divider, hdivider, _, hdivides⟩ := hends 0 first rfl hnoise
            obtain rfl := Nat.le_zero.mp hle
            cases hdivider
            simpa [hdivides] using hstart

/-- A section is empty when every line in the window that is not noise has an end of the
section at or before it. -/
theorem isEmptySection_eq_true_iff {body : List Text} :
    heuristics.isEmptySection body = true ↔
      ∀ k < heuristics.window, ∀ line ∈ body[k]?, heuristics.isNoise line = false →
        ∃ j ≤ k, heuristics.EndsAt body j := by
  rw [isEmptySection, scan_eq_true_iff]
  constructor
  · intro hends k hwindow line hline hcontent
    obtain ⟨j, hle, hstart, divider, hdivider, hrest⟩ :=
      hends k line ((List.getElem?_take_of_lt hwindow).trans hline) hcontent
    rw [List.getElem?_take_of_lt (Nat.lt_of_le_of_lt hle hwindow)] at hdivider
    exact ⟨j, hle, hstart rfl, divider, hdivider, hrest⟩
  · intro hends k line hline hcontent
    obtain ⟨hwindow, hline⟩ : k < heuristics.window ∧ body[k]? = some line := by
      rw [Option.mem_def, List.getElem?_take] at hline
      split at hline
      next hwindow => exact ⟨hwindow, hline⟩
      next => simp at hline
    obtain ⟨j, hle, hpos, divider, hdivider, hrest⟩ := hends k hwindow line hline hcontent
    exact ⟨j, hle, fun _ => hpos, divider,
      (List.getElem?_take_of_lt (Nat.lt_of_le_of_lt hle hwindow)).trans hdivider, hrest⟩

/-- Any line in the window that is not noise makes a section non-empty, unless the section
ends first. -/
theorem isEmptySection_of_content {body : List Text} {k : Nat} {line : Text}
    (hwindow : k < heuristics.window) (hline : line ∈ body[k]?)
    (hcontent : heuristics.isNoise line = false)
    (hgoes : ∀ j ≤ k, ¬ heuristics.EndsAt body j) :
    heuristics.isEmptySection body = false := by
  rw [Bool.eq_false_iff]
  intro hempty
  obtain ⟨j, hle, hends⟩ := isEmptySection_eq_true_iff.mp hempty k hwindow line hline hcontent
  exact hgoes j hle hends

/-- A single line is an empty section exactly if it is noise. -/
theorem isEmptyFrom_singleton (hwindow : 1 ≤ heuristics.window) (line : Text) :
    heuristics.isEmptyFrom [line] 0 = heuristics.isNoise line := by
  rw [isEmptyFrom, List.drop_zero, isEmptySection, List.take_of_length_le hwindow]
  cases hnoise : heuristics.isNoise line with
  | true => rw [scan_of_isNoise hnoise, scan, beq_self_eq_true]
  | false => rw [scan_of_not_isNoise hnoise, Bool.not_true, Bool.false_and]

end Heuristics

end Transcript
