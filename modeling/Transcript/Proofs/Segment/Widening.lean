import Transcript.Proofs.Layout.Optimal
import Transcript.Proofs.Segment.Reflow
import Transcript.Proofs.Stream

/-!
# Wider terminals

On a wider terminal no status line is printed on more lines, and none is wrapped that was not
wrapped before. Which sections are dimmed does not depend on the width. So a wider terminal
never adds to what is printed.
-/

namespace Transcript

namespace StatusLine

variable {status : StatusLine} {narrow wide : Nat}

theorem isSome_wrap?_of_le (hle : narrow ≤ wide) (hwrap : (status.wrap? wide).isSome = true) :
    (status.wrap? narrow).isSome = true := by
  rw [Option.isSome_iff_ne_none, ne_eq, wrap?_eq_none_iff] at hwrap ⊢
  omega

theorem length_getD_wrap?_pos (status : StatusLine) (columns : Nat) (line : Text) :
    0 < ((status.wrap? columns).getD [line]).length := by
  cases hwrap : status.wrap? columns with
  | none => exact Nat.one_pos
  | some parts => exact List.length_pos_iff.mpr (ne_nil_of_wrap? hwrap)

/-- A status line is printed on no more lines when the terminal is wider. -/
theorem length_getD_wrap?_le (hsolid : ∀ c ∈ status.description.head?, Text.isSpace c = false)
    (hle : narrow ≤ wide) (line : Text) :
    ((status.wrap? wide).getD [line]).length ≤ ((status.wrap? narrow).getD [line]).length := by
  rcases Nat.lt_or_ge wide status.render.length with hlong | hfits
  · have hlonger : narrow < status.render.length := Nat.lt_of_le_of_lt hle hlong
    by_cases hdescription : status.description = []
    · rw [length_render, hdescription, List.length_nil, Nat.add_zero] at hlong hlonger
      rw [wrap?_of_bare hdescription hlong, wrap?_of_bare hdescription hlonger]
    · obtain ⟨first, rest, hwords⟩ := Text.exists_words_eq_cons hdescription hsolid
      have hlimit : narrow - status.indentWidth ≤ wide - status.indentWidth :=
        Nat.sub_le_sub_right hle _
      have hopening := Layout.length_opening_antitone hlimit status.indentWidth first
      rw [wrap?_of_words hsolid hlong hwords, wrap?_of_words hsolid hlonger hwords]
      simp only [Option.getD_some, List.length_cons, List.length_map]
      apply Nat.succ_le_succ
      exact Layout.length_cut_antitone hlimit (Nat.add_le_add_right hopening _) rest
  · rw [wrap?_eq_none_iff.mpr hfits]
    exact length_getD_wrap?_pos status narrow line

end StatusLine

namespace Stats

/-- The counts on a wider terminal against those on a narrower one. -/
structure Widened (wide narrow : Stats) : Prop where
  linesIn_eq : wide.linesIn = narrow.linesIn
  linesOut_le : wide.linesOut ≤ narrow.linesOut
  sectionsDimmed_eq : wide.sectionsDimmed = narrow.sectionsDimmed
  linesWrapped_le : wide.linesWrapped ≤ narrow.linesWrapped

theorem Widened.refl (counts : Stats) : Widened counts counts :=
  ⟨rfl, Nat.le_refl _, rfl, Nat.le_refl _⟩

theorem Widened.add {wide narrow wider narrower : Stats} (hleft : Widened wide narrow)
    (hright : Widened wider narrower) : Widened (wide + wider) (narrow + narrower) where
  linesIn_eq := congrArg₂ Nat.add hleft.linesIn_eq hright.linesIn_eq
  linesOut_le := Nat.add_le_add hleft.linesOut_le hright.linesOut_le
  sectionsDimmed_eq := congrArg₂ Nat.add hleft.sectionsDimmed_eq hright.sectionsDimmed_eq
  linesWrapped_le := Nat.add_le_add hleft.linesWrapped_le hright.linesWrapped_le

end Stats

namespace Options

variable {narrow wide : Nat}

theorem length_reflow_le (color : Bool) (heuristics : Heuristics) (hle : narrow ≤ wide)
    (line : Text) :
    (reflow ⟨wide, color, heuristics⟩ line).length ≤
      (reflow ⟨narrow, color, heuristics⟩ line).length := by
  unfold reflow wrapped?
  cases hparse : StatusLine.parse? line with
  | none => exact Nat.le_refl _
  | some status =>
      obtain ⟨gap, hwritten⟩ := StatusLine.written_of_parse? hparse
      exact StatusLine.length_getD_wrap?_le hwritten.description_solid hle line

theorem isSome_wrapped?_of_le {color : Bool} {heuristics : Heuristics} (hle : narrow ≤ wide)
    {line : Text} (hwrapped : (wrapped? ⟨wide, color, heuristics⟩ line).isSome = true) :
    (wrapped? ⟨narrow, color, heuristics⟩ line).isSome = true := by
  unfold wrapped? at hwrapped ⊢
  cases hparse : StatusLine.parse? line with
  | none => simp [hparse] at hwrapped
  | some status =>
      rw [hparse] at hwrapped
      exact StatusLine.isSome_wrap?_of_le hle hwrapped

theorem widened_lineSegment (color : Bool) (heuristics : Heuristics) (hle : narrow ≤ wide)
    (line : Text) :
    Stats.Widened (lineSegment ⟨wide, color, heuristics⟩ line).stats
      (lineSegment ⟨narrow, color, heuristics⟩ line).stats := by
  rw [stats_lineSegment, stats_lineSegment]
  refine ⟨rfl, length_reflow_le color heuristics hle line, rfl, ?_⟩
  by_cases hwrapped : (wrapped? ⟨wide, color, heuristics⟩ line).isSome = true
  · simp [hwrapped, isSome_wrapped?_of_le hle hwrapped]
  · simp [hwrapped]

theorem widened_stats (color : Bool) (heuristics : Heuristics) (hle : narrow ≤ wide)
    (lines : List Text) :
    Stats.Widened (stats ⟨wide, color, heuristics⟩ lines) (stats ⟨narrow, color, heuristics⟩ lines) := by
  induction lines using walk_induction ⟨wide, color, heuristics⟩ with
  | nil => exact .refl _
  | line line rest hopens ih =>
      have hnarrow : opensEmpty ⟨narrow, color, heuristics⟩ (line :: rest) = false := hopens
      rw [stats_of_not_opensEmpty hopens, stats_of_not_opensEmpty hnarrow]
      exact (widened_lineSegment color heuristics hle line).add ih
  | dimmed divider header body hopens ih =>
      have hnarrow : opensEmpty ⟨narrow, color, heuristics⟩ (divider :: header :: body) = true :=
        hopens
      rw [stats_of_opensEmpty hopens, stats_of_opensEmpty hnarrow]
      exact (Stats.Widened.refl _).add ih

/-- Widening the terminal adds no line to the output and wraps no further status line, and it
dims the same number of sections. Each status line by itself is printed on no more lines. -/
theorem stream_widen (color : Bool) (heuristics : Heuristics) {narrow wide : Nat}
    (hle : narrow ≤ wide) (lines : List Text) :
    let counts := fun columns =>
      ((stream ⟨columns, color, heuristics⟩ Sink.collect lines).run []).1
    (counts wide).linesOut ≤ (counts narrow).linesOut ∧
      (counts wide).linesWrapped ≤ (counts narrow).linesWrapped ∧
      (counts wide).sectionsDimmed = (counts narrow).sectionsDimmed ∧
      ∀ line status, StatusLine.parse? line = some status →
        ((status.wrap? wide).getD [line]).length ≤ ((status.wrap? narrow).getD [line]).length := by
  have hwidened := widened_stats color heuristics hle lines
  simp only [run_stream_collect]
  refine ⟨hwidened.linesOut_le, hwidened.linesWrapped_le, hwidened.sectionsDimmed_eq, ?_⟩
  intro line status hparse
  obtain ⟨gap, hwritten⟩ := StatusLine.written_of_parse? hparse
  exact StatusLine.length_getD_wrap?_le hwritten.description_solid hle line

/-- An empty section, and a status line that takes three lines on a terminal of four columns:
two of its words do not fit behind the marker. -/
def cramped : List Text := [['='], ['T'], [], ['='], "* abc de f".toList]

theorem stream_widen_cramped :
    let counts := fun columns =>
      ((stream ⟨columns, true, Options.narrow.heuristics⟩ Sink.collect cramped).run []).1
    4 ≤ 7 ∧ counts 4 = ⟨5, 7, 1, 1⟩ ∧ (counts 7).linesOut ≤ 7 ∧ (counts 7).sectionsDimmed = 1 ∧
      ∃ status, StatusLine.parse? "* abc de f".toList = some status ∧
        ((status.wrap? 7).getD ["* abc de f".toList]).length ≤ 3 := by
  have hle : 4 ≤ 7 := by decide
  have hcounts : ((stream ⟨4, true, Options.narrow.heuristics⟩ Sink.collect cramped).run []).1 =
      ⟨5, 7, 1, 1⟩ := by
    rw [run_stream_collect]
    decide
  have hparse : StatusLine.parse? "* abc de f".toList = some ⟨[], ['*'], "abc de f".toList⟩ := by
    decide
  have hwrap : StatusLine.wrap? ⟨[], ['*'], "abc de f".toList⟩ 4 =
      some ["*   abc".toList, "  de".toList, "  f".toList] := by decide
  obtain ⟨hout, _, hdimmed, hline⟩ := stream_widen true Options.narrow.heuristics hle cramped
  have hparts := hline _ _ hparse
  dsimp only at hout hdimmed
  rw [hcounts] at hout hdimmed
  rw [hwrap] at hparts
  exact ⟨hle, hcounts, hout, hdimmed, _, hparse, hparts⟩

end Options

end Transcript
