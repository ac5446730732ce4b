import Mathlib.Algebra.GroupWithZero.Nat
import Transcript.Proofs.StatusLine.Parts
import Transcript.Proofs.Stream.Consumer

/-!
# Every line is accounted for

A run cuts the transcript into dimmed pairs, wrapped status lines and lines kept as they are,
and the counts tell how many there are of each. This holds whatever dividers and headers look
like, even if one line is both. Only wrapping adds lines.
-/

namespace Transcript

namespace Segment

/-- The lines a segment prints beyond those it stands for. -/
def extra : Segment → Nat
  | wrapped _ parts => parts.length - 1
  | _ => 0

end Segment

/-- The segments that formatting may decide on: a divider with a header, a status line with
the lines it is wrapped to, and any line that is not wrapped. -/
inductive Options.Allows (options : Options) : Segment → Prop
  | dimmed {divider header : Text} (hdivider : options.heuristics.isDivider divider = true)
      (hheader : options.heuristics.isHeader header = true) :
      options.Allows (.dimmed divider header)
  | wrapped {line : Text} {status : StatusLine} {parts : List Text}
      (hparse : StatusLine.parse? line = some status)
      (hwrap : status.wrap? options.columns = some parts) (hne : parts ≠ []) :
      options.Allows (.wrapped line parts)
  | kept {line : Text} (hkept : options.wrapped? line = none) : options.Allows (.kept line)

namespace Options

variable {options : Options}

theorem allows_lineSegment (options : Options) (line : Text) :
    options.Allows (options.lineSegment line) := by
  cases hwrapped : options.wrapped? line with
  | none =>
      rw [lineSegment_of_not_wrapped? hwrapped]
      exact .kept hwrapped
  | some parts =>
      obtain ⟨status, hparse, hwrap⟩ := Option.bind_eq_some_iff.mp hwrapped
      rw [lineSegment_of_wrapped? hwrapped]
      exact .wrapped hparse hwrap (StatusLine.ne_nil_of_wrap? hwrap)

theorem allows_of_mem_segments (options : Options) (lines : List Text) :
    ∀ segment ∈ options.segments lines, options.Allows segment := by
  induction lines using walk_induction options with
  | nil => exact fun _ hmem => absurd hmem List.not_mem_nil
  | line line rest hopens ih =>
      rw [segments_of_not_opensEmpty hopens]
      exact List.forall_mem_cons.mpr ⟨options.allows_lineSegment line, ih⟩
  | dimmed divider header body hopens ih =>
      have hannounces := hopens
      simp only [opensEmpty, announcesEmpty, Bool.and_eq_true] at hannounces
      rw [segments_of_opensEmpty hopens]
      exact List.forall_mem_cons.mpr ⟨.dimmed hannounces.1.1 hannounces.1.2, ih⟩

namespace Allows

theorem length_output {segment : Segment} (hallows : options.Allows segment) (color : Bool) :
    (segment.output color).length = segment.source.length + segment.extra := by
  cases hallows with
  | dimmed => rfl
  | @wrapped line status parts hparse hwrap hne =>
      have hpos := List.length_pos_iff.mpr hne
      simp only [Segment.output, Segment.source, Segment.extra, List.length_singleton]
      omega
  | kept => rfl

theorem length_flatMap_output {segments : List Segment}
    (hallows : ∀ segment ∈ segments, options.Allows segment) (color : Bool) :
    (segments.flatMap (Segment.output color)).length =
      (segments.flatMap Segment.source).length + (segments.map Segment.extra).sum := by
  induction segments with
  | nil => rfl
  | cons segment rest ih =>
      have hfirst := (hallows segment List.mem_cons_self).length_output color
      have hrest := ih fun other hmem => hallows other (List.mem_cons_of_mem segment hmem)
      simp only [List.flatMap_cons, List.length_append, List.map_cons, List.sum_cons]
      omega

end Allows

/-- Whatever the heuristics, a run that its consumer lets succeed has cut the transcript into
segments one after the other and printed what they print. The counts are those of the
segments, and the lines printed are those read and the extra lines of the wrapped segments. -/
theorem stream_partition {σ ε : Type} (options : Options) (consumer : Consumer σ ε)
    {state last : σ} {lines printed : List Text} {counts : Stats}
    (hrun : (options.stream consumer.noting.sink lines).run.run (state, []) =
      (.ok counts, last, printed)) :
    ∃ segments : List Segment,
      segments.flatMap Segment.source = lines ∧
      segments.flatMap (Segment.output options.color) = printed ∧
      (∀ segment ∈ segments, options.Allows segment) ∧
      counts.linesIn = lines.length ∧
      counts.sectionsDimmed = segments.countP Segment.isDimmed ∧
      counts.linesWrapped = segments.countP Segment.isWrapped ∧
      counts.linesOut = printed.length ∧
      counts.linesOut = counts.linesIn + (segments.map Segment.extra).sum ∧
      counts.linesIn ≤ counts.linesOut := by
  rw [run_stream_noting] at hrun
  obtain ⟨hresult, hrest⟩ := Prod.mk.inj hrun
  obtain ⟨_, hcalls⟩ := Prod.mk.inj hrest
  rcases hfeed : consumer.feed state (options.formatLines lines) with ⟨error | ⟨⟩, final⟩
  · rw [hfeed] at hresult
    cases hresult
  · rw [hfeed] at hresult
    obtain rfl : options.stats lines = counts := Except.ok.inj hresult
    obtain rfl : options.formatLines lines = printed :=
      (Consumer.calls_of_feed_ok hfeed).symm.trans hcalls
    have hallows := options.allows_of_mem_segments lines
    have hlength : (options.formatLines lines).length =
        lines.length + ((options.segments lines).map Segment.extra).sum := by
      rw [formatLines, Allows.length_flatMap_output hallows, flatMap_source_segments]
    rw [stats_eq]
    refine ⟨options.segments lines, flatMap_source_segments options lines, rfl, hallows, rfl, rfl,
      rfl, rfl, hlength, ?_⟩
    exact hlength ▸ Nat.le_add_right _ _

/-- Heuristics under which every line is both a divider and a header. -/
def indistinct : Heuristics := ⟨1, 0, [], [], []⟩

/-- The last two lines are dimmed as a divider and a header, with no section behind them. -/
theorem stream_partition_indistinct :
    let lines : List Text := [['='], ['T'], [], ['*', ' ', 'a', ' ', 'b'], ['x'], ['y']]
    let printed : List Text := [['='], ['T'], [], ['*', ' ', 'a'], [' ', ' ', 'b'], ['x'], ['y']]
    (stream ⟨4, false, indistinct⟩ (Consumer.limited 7).noting.sink lines).run.run ([], []) =
        (.ok ⟨6, 7, 2, 1⟩, printed, printed) ∧
      ∃ segments : List Segment, segments.flatMap Segment.source = lines ∧
        segments.flatMap (Segment.output false) = printed ∧
        segments.countP Segment.isDimmed = 2 ∧ segments.countP Segment.isWrapped = 1 ∧
        7 = 6 + (segments.map Segment.extra).sum := by
  intro lines printed
  have hrun : (stream ⟨4, false, indistinct⟩ (Consumer.limited 7).noting.sink
      lines).run.run ([], []) = (.ok ⟨6, 7, 2, 1⟩, printed, printed) := rfl
  obtain ⟨segments, hlines, hprinted, _, _, hdimmed, hwrapped, _, hextra, _⟩ :=
    stream_partition _ _ hrun
  exact ⟨hrun, segments, hlines, hprinted, hdimmed.symm, hwrapped.symm, hextra⟩

end Options

end Transcript
