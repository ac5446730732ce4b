import Transcript.Proofs.Segment.Position

/-!
# Counting segments

The segments of a transcript stand for its lines, one after the other. The counts over a
transcript are the numbers of lines the segments stand for and print, and the numbers of
dimmed and of wrapped segments.
-/

namespace Transcript

namespace Segment

def isDimmed : Segment → Bool
  | dimmed _ _ => true
  | _ => false

def isWrapped : Segment → Bool
  | wrapped _ _ => true
  | _ => false

theorem stats_eq (segment : Segment) (color : Bool) :
    segment.stats = ⟨segment.source.length, (segment.output color).length,
      segment.isDimmed.toNat, segment.isWrapped.toNat⟩ := by
  cases segment <;> rfl

theorem countP_cons_toNat (p : Segment → Bool) (segment : Segment) (rest : List Segment) :
    (segment :: rest).countP p = (p segment).toNat + rest.countP p := by
  rw [List.countP_cons, Nat.add_comm]
  cases p segment <;> rfl

theorem foldr_stats (segments : List Segment) (color : Bool) :
    segments.foldr (fun segment counts => segment.stats + counts) .zero =
      ⟨(segments.flatMap source).length, (segments.flatMap (output color)).length,
        segments.countP isDimmed, segments.countP isWrapped⟩ := by
  induction segments with
  | nil => rfl
  | cons segment rest ih =>
      rw [List.foldr_cons, ih, stats_eq segment color]
      simp only [List.flatMap_cons, List.length_append, countP_cons_toNat]
      rfl

end Segment

namespace Options

variable {options : Options}

/-- The segments stand for the lines of the transcript, without gap or overlap. -/
theorem flatMap_source_segments (options : Options) (lines : List Text) :
    (options.segments lines).flatMap Segment.source = lines := by
  induction lines using walk_induction options with
  | nil => rfl
  | line line rest hopens ih =>
      rw [segments_of_not_opensEmpty hopens, List.flatMap_cons, source_lineSegment, ih,
        List.singleton_append]
  | dimmed divider header body hopens ih =>
      rw [segments_of_opensEmpty hopens, List.flatMap_cons, ih]
      rfl

theorem stats_eq (options : Options) (lines : List Text) :
    options.stats lines = ⟨lines.length, (options.formatLines lines).length,
      (options.segments lines).countP Segment.isDimmed,
      (options.segments lines).countP Segment.isWrapped⟩ := by
  rw [stats, Segment.foldr_stats _ options.color, flatMap_source_segments, formatLines]

theorem linesOut_stats (options : Options) (lines : List Text) :
    (options.stats lines).linesOut = (options.formatLines lines).length := by
  rw [stats_eq]

end Options

end Transcript
