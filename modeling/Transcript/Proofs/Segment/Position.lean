import Transcript.Proofs.Segment.Pointwise

/-!
# Where a segment stands

The segments of a transcript follow one another without gap, so a segment stands at the
index that counts the lines of the segments before it, and the walk from that line on
begins with it.
-/

namespace Transcript.Options

variable {options : Options}

/-- A segment is a dimmed pair of lines or stands for a line decided on alone. -/
theorem mem_segments {lines : List Text} {segment : Segment}
    (hmem : segment ∈ options.segments lines) :
    (∃ divider header, segment = .dimmed divider header) ∨
      ∃ line ∈ lines, segment = options.lineSegment line := by
  induction lines using walk_induction options with
  | nil => exact absurd hmem List.not_mem_nil
  | line line rest hopens ih =>
      rw [segments_of_not_opensEmpty hopens] at hmem
      rcases List.mem_cons.mp hmem with rfl | hrest
      · exact .inr ⟨line, List.mem_cons_self, rfl⟩
      · exact (ih hrest).imp_right fun ⟨other, hother, heq⟩ =>
          ⟨other, List.mem_cons_of_mem line hother, heq⟩
  | dimmed divider header body hopens ih =>
      rw [segments_of_opensEmpty hopens] at hmem
      rcases List.mem_cons.mp hmem with rfl | hrest
      · exact .inl ⟨divider, header, rfl⟩
      · exact (ih hrest).imp_right fun ⟨other, hother, heq⟩ =>
          ⟨other, List.mem_cons_of_mem divider (List.mem_cons_of_mem header hother), heq⟩

/-- Behind the segments passed the walk goes on as it would from there. -/
theorem segments_drop {lines : List Text} {passed ahead : List Segment}
    (hcut : options.segments lines = passed ++ ahead) :
    options.segments (lines.drop (passed.flatMap Segment.source).length) = ahead := by
  -- One step of the walk passes one segment, so the segments passed vary along the induction.
  induction lines using walk_induction options generalizing passed with
  | nil =>
      obtain ⟨rfl, rfl⟩ := List.append_eq_nil_iff.mp hcut.symm
      rfl
  | line line rest hopens ih =>
      cases passed with
      | nil => exact hcut
      | cons segment others =>
          rw [segments_of_not_opensEmpty hopens, List.cons_append] at hcut
          obtain ⟨rfl, hrest⟩ := List.cons.inj hcut
          rw [List.flatMap_cons, source_lineSegment, List.singleton_append, List.length_cons,
            List.drop_succ_cons]
          exact ih hrest
  | dimmed divider header body hopens ih =>
      cases passed with
      | nil => exact hcut
      | cons segment others =>
          rw [segments_of_opensEmpty hopens, List.cons_append] at hcut
          obtain ⟨rfl, hrest⟩ := List.cons.inj hcut
          exact ih hrest

theorem opensEmpty_of_segments {lines : List Text} {divider header : Text} {ahead : List Segment}
    (hfirst : options.segments lines = .dimmed divider header :: ahead) :
    options.opensEmpty lines = true := by
  cases lines with
  | nil => cases hfirst
  | cons line rest =>
      cases hopens : options.opensEmpty (line :: rest) with
      | true => rfl
      | false =>
          rw [segments_of_not_opensEmpty hopens] at hfirst
          have hsource := source_lineSegment options line
          rw [(List.cons.inj hfirst).1, Segment.source] at hsource
          cases hsource

theorem announcesAt_drop (lines : List Text) (n : Nat) :
    options.announcesAt (lines.drop n) 0 = options.announcesAt lines n := by
  simp [announcesAt, Heuristics.isEmptyFrom]

theorem announcesAt_of_dimmed {lines : List Text} {passed ahead : List Segment}
    {divider header : Text}
    (hcut : options.segments lines = passed ++ .dimmed divider header :: ahead) :
    options.announcesAt lines (passed.flatMap Segment.source).length = true := by
  rw [← announcesAt_drop, announcesAt_zero]
  exact opensEmpty_of_segments (segments_drop hcut)

end Transcript.Options
