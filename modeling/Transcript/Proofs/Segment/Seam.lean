import Transcript.Proofs.Section.Verdict
import Transcript.Proofs.Segment.Pointwise

/-!
# Transcripts put together

A transcript may be cut in front of a divider that is neither noise nor a header, unless a
section is announced by the two lines before it. To the sections before the cut that divider
says what the end of the transcript says. So the two parts have the segments of the whole,
and what is printed and counted for them adds up.
-/

namespace Transcript

/-- A line that ends the section before it and is no header: a divider that is not noise. -/
structure Heuristics.Closes (heuristics : Heuristics) (line : Text) : Prop where
  isDivider : heuristics.isDivider line = true
  isNoise : heuristics.isNoise line = false
  isHeader : heuristics.isHeader line = false

/-- The lines do not end with a divider and a header. -/
def Heuristics.EndsQuietly (heuristics : Heuristics) (lines : List Text) : Prop :=
  ∀ before divider header, lines = before ++ [divider, header] →
    heuristics.isDivider divider = true → heuristics.isHeader header = false

namespace Heuristics

variable {heuristics : Heuristics}

theorem EndsQuietly.tail {line : Text} {rest : List Text}
    (hquiet : heuristics.EndsQuietly (line :: rest)) : heuristics.EndsQuietly rest :=
  fun before divider header heq =>
    hquiet (line :: before) divider header (congrArg (line :: ·) heq)

/-! ## The verdict at the cut -/

theorem endsAt_append_left {body behind : List Text} {i : Nat} (hlt : i < body.length) :
    heuristics.EndsAt (body ++ behind) i ↔ heuristics.EndsAt body i := by
  rw [EndsAt, EndsAt, List.getElem?_append_left hlt]

theorem endsAt_append_length {body : List Text} (hne : body ≠ []) {line : Text}
    (hcloses : heuristics.Closes line) (behind : List Text) :
    heuristics.EndsAt (body ++ line :: behind) body.length := by
  refine ⟨List.length_pos_iff.mpr hne, line, ?_, hcloses.isNoise, hcloses.isDivider⟩
  rw [List.getElem?_append_right (Nat.le_refl _), Nat.sub_self]
  rfl

/-- A section that has lines is judged by them alone when a closing line comes next. -/
theorem isEmptySection_append {body : List Text} (hne : body ≠ []) {line : Text}
    (hcloses : heuristics.Closes line) (behind : List Text) :
    heuristics.isEmptySection (body ++ line :: behind) = heuristics.isEmptySection body := by
  rw [Bool.eq_iff_iff, isEmptySection_eq_true_iff, isEmptySection_eq_true_iff]
  constructor
  · intro hends k hwindow other hother hcontent
    have hlt : k < body.length := (List.getElem?_eq_some_iff.mp hother).1
    obtain ⟨j, hle, hend⟩ := hends k hwindow other
      ((List.getElem?_append_left hlt).trans hother) hcontent
    exact ⟨j, hle, (endsAt_append_left (Nat.lt_of_le_of_lt hle hlt)).mp hend⟩
  · intro hends k hwindow other hother hcontent
    rcases Nat.lt_or_ge k body.length with hlt | hge
    · rw [List.getElem?_append_left hlt] at hother
      obtain ⟨j, hle, hend⟩ := hends k hwindow other hother hcontent
      exact ⟨j, hle, (endsAt_append_left (Nat.lt_of_le_of_lt hle hlt)).mpr hend⟩
    · exact ⟨body.length, hge, endsAt_append_length hne hcloses behind⟩

end Heuristics

namespace Options

variable {options : Options}

theorem opensEmpty_append {first : Text} {rest : List Text} {line : Text}
    (hcloses : options.heuristics.Closes line)
    (hquiet : options.heuristics.EndsQuietly (first :: rest)) (behind : List Text) :
    options.opensEmpty (first :: rest ++ line :: behind) = options.opensEmpty (first :: rest) := by
  match rest with
  | [] =>
      change options.announcesEmpty first line behind = false
      simp [announcesEmpty, hcloses.isHeader]
  | [header] =>
      -- The section has no line before the cut, so only the hypothesis on the end helps.
      change options.announcesEmpty first header (line :: behind) =
        options.announcesEmpty first header []
      cases hdivider : options.heuristics.isDivider first with
      | false => simp [announcesEmpty, hdivider]
      | true =>
          have hheader := hquiet [] first header rfl hdivider
          simp [announcesEmpty, hheader]
  | header :: other :: body =>
      change options.announcesEmpty first header (other :: body ++ line :: behind) =
        options.announcesEmpty first header (other :: body)
      unfold announcesEmpty
      rw [Heuristics.isEmptySection_append (List.cons_ne_nil other body) hcloses]

theorem segments_append {line : Text} (hcloses : options.heuristics.Closes line)
    {lines : List Text} (hquiet : options.heuristics.EndsQuietly lines) (behind : List Text) :
    options.segments (lines ++ line :: behind) =
      options.segments lines ++ options.segments (line :: behind) := by
  induction lines using walk_induction options with
  | nil => rfl
  | line first rest hopens ih =>
      have hopens' : options.opensEmpty (first :: (rest ++ line :: behind)) = false :=
        (opensEmpty_append hcloses hquiet behind).trans hopens
      rw [segments_of_not_opensEmpty hopens, List.cons_append, segments_of_not_opensEmpty hopens',
        ih hquiet.tail, List.cons_append]
  | dimmed divider header body hopens ih =>
      have hopens' :
          options.opensEmpty (divider :: header :: (body ++ line :: behind)) = true :=
        (opensEmpty_append hcloses hquiet behind).trans hopens
      rw [segments_of_opensEmpty hopens, List.cons_append, List.cons_append,
        segments_of_opensEmpty hopens', ih hquiet.tail.tail, List.cons_append]

/-! ## Output and counts -/

theorem formatLines_of_segments {lines left right : List Text}
    (hsegments : options.segments lines = options.segments left ++ options.segments right) :
    options.formatLines lines = options.formatLines left ++ options.formatLines right := by
  unfold formatLines
  rw [hsegments, List.flatMap_append]

theorem stats_of_segments {lines left right : List Text}
    (hsegments : options.segments lines = options.segments left ++ options.segments right) :
    options.stats lines = options.stats left + options.stats right := by
  unfold stats
  rw [hsegments, List.foldr_append]
  generalize (options.segments right).foldr _ _ = counts
  induction options.segments left with
  | nil => exact (Stats.zero_add counts).symm
  | cons segment others ih => rw [List.foldr_cons, ih, List.foldr_cons, Stats.add_assoc]

/-- A transcript and one that follows it are formatted apart, and their counts add up, when
the second begins with a divider that is neither noise nor a header and the first does not
end with a divider and a header. -/
theorem stream_append (options : Options) (lines : List Text) {line : Text}
    (hcloses : options.heuristics.Closes line) (hquiet : options.heuristics.EndsQuietly lines)
    (behind : List Text) :
    options.formatLines (lines ++ line :: behind) =
        options.formatLines lines ++ options.formatLines (line :: behind) ∧
      let run := fun lines => (options.stream Sink.collect lines).run []
      run (lines ++ line :: behind) =
        ((run lines).1 + (run (line :: behind)).1, (run lines).2 ++ (run (line :: behind)).2) := by
  have hsegments := segments_append hcloses hquiet behind
  have hlines := formatLines_of_segments hsegments
  refine ⟨hlines, ?_⟩
  simp only [run_stream_collect]
  rw [hlines, stats_of_segments hsegments]

/-- The first transcript ends inside the window of an empty section. -/
theorem stream_append_narrow :
    narrow.heuristics.Closes ['='] ∧ narrow.heuristics.EndsQuietly [['='], ['T'], []] ∧
      narrow.formatLines [['='], ['T'], [], ['='], ['T', 's'], ['x']] =
        [Decoration.dim ['='], Decoration.dim ['T'], [], ['='], ['T', 's'], ['x']] := by
  have hcloses : narrow.heuristics.Closes ['='] := ⟨by decide, by decide, by decide⟩
  have hquiet : narrow.heuristics.EndsQuietly [['='], ['T'], []] := by
    intro before divider header heq _
    have hlast := congrArg List.getLast? heq
    rw [List.getLast?_append] at hlast
    cases hlast
    decide
  have happend := stream_append narrow _ hcloses hquiet [['T', 's'], ['x']]
  exact ⟨hcloses, hquiet, happend.1.trans (by decide)⟩

end Options

end Transcript
