import Transcript.Proofs.Segment.Counts
import Transcript.Proofs.Stream

/-!
# How far a run looks ahead

A run goes through its transcript by positions: at each it decides on a segment, and the
segment says where the next position is. The decision at a position takes in the line there,
the line after it and the window behind these two. So transcripts that begin alike are
decided on alike at every position whose window lies within their common beginning.
-/

namespace Transcript

/-- What a run reports or prints. -/
inductive Entry where
  | notice (notice : Notice)
  | line (line : Text)

namespace Segment

/-- What a run reports and prints at the position of a segment. -/
def entries (color : Bool) (index : Nat) (segment : Segment) : List Entry :=
  (segment.notice? index).toList.map .notice ++ (segment.output color).map .line

theorem source_prefix_of_mem_placed {segments : List Segment} {index : Nat}
    {visit : Nat × Segment} (hmem : visit ∈ placed index segments) :
    ∃ passed, visit.1 = index + passed ∧
      visit.2.source <+: (segments.flatMap source).drop passed := by
  induction segments generalizing index with
  | nil => exact absurd hmem List.not_mem_nil
  | cons segment rest ih =>
      rcases List.mem_cons.mp hmem with rfl | hrest
      · exact ⟨0, rfl, List.prefix_append segment.source _⟩
      · obtain ⟨passed, hindex, hsource⟩ := ih hrest
        refine ⟨segment.source.length + passed, by omega, ?_⟩
        rw [List.flatMap_cons, List.drop_length_add_append]
        exact hsource

end Segment

namespace Sink

/-- The sink that keeps everything it is told, in order. -/
def journal : Sink (StateM (List Entry)) where
  emit line := modify (· ++ [.line line])
  report notice := modify (· ++ [.notice notice])

theorem run_forM_journal (lines : List Text) (entries : List Entry) :
    (lines.forM journal.emit).run entries = ((), entries ++ lines.map .line) := by
  induction lines generalizing entries with
  | nil =>
      rw [List.map_nil, List.append_nil]
      rfl
  | cons line rest ih =>
      have hstep : ((line :: rest).forM journal.emit).run entries =
          (rest.forM journal.emit).run (entries ++ [.line line]) := rfl
      rw [hstep, ih, List.append_assoc, List.singleton_append, List.map_cons]

theorem run_send_journal (color : Bool) (index : Nat) (segment : Segment)
    (entries : List Entry) :
    (journal.send color index segment).run entries =
      ((), entries ++ segment.entries color index) := by
  unfold send Segment.entries
  cases segment.notice? index with
  | none => exact run_forM_journal _ entries
  | some notice =>
      rw [← List.append_assoc]
      exact run_forM_journal _ (entries ++ [.notice notice])

end Sink

namespace Options

variable {options : Options}

theorem run_forM_visits (visits : List (Nat × Segment)) (color : Bool) (entries : List Entry) :
    (visits.forM fun visit => Sink.journal.send color visit.1 visit.2).run entries =
      ((), entries ++ visits.flatMap fun visit => visit.2.entries color visit.1) := by
  induction visits generalizing entries with
  | nil =>
      rw [List.flatMap_nil, List.append_nil]
      rfl
  | cons visit rest ih =>
      rw [List.forM_eq_forM, List.forM_cons, StateT.run_bind, Sink.run_send_journal]
      rw [List.forM_eq_forM] at ih
      exact (ih _).trans (by rw [List.flatMap_cons, List.append_assoc])

/-- The journal of a run holds the entries of its positions. -/
theorem run_stream_journal (options : Options) (lines : List Text) :
    (options.stream Sink.journal lines).run [] =
      (options.stats lines, (options.visitsFrom 0 lines).flatMap fun visit =>
        visit.2.entries options.color visit.1) := by
  rw [stream, streamFrom_eq_forM, Stats.zero_add, StateT.run_bind, run_forM_visits,
    List.nil_append]
  rfl

/-! ## Common beginnings -/

theorem exists_cons_cons_of_window {before : List Text}
    (hinside : 2 + options.heuristics.window ≤ before.length) :
    ∃ line header body, before = line :: header :: body ∧
      options.heuristics.window ≤ body.length := by
  obtain ⟨line, rest, rfl⟩ := List.exists_cons_of_length_pos (by omega : 0 < before.length)
  rw [List.length_cons] at hinside
  obtain ⟨header, body, rfl⟩ := List.exists_cons_of_length_pos (by omega : 0 < rest.length)
  rw [List.length_cons] at hinside
  exact ⟨line, header, body, rfl, by omega⟩

/-- Whether a section opens and is empty shows in the first two lines and the window behind. -/
theorem opensEmpty_append_congr {before : List Text}
    (hinside : 2 + options.heuristics.window ≤ before.length) (left right : List Text) :
    options.opensEmpty (before ++ left) = options.opensEmpty (before ++ right) := by
  obtain ⟨line, header, body, rfl, hwindow⟩ := exists_cons_cons_of_window hinside
  change options.announcesEmpty line header (body ++ left) =
    options.announcesEmpty line header (body ++ right)
  unfold announcesEmpty Heuristics.isEmptySection
  rw [List.take_append_of_le_length hwindow, List.take_append_of_le_length hwindow]

/-- No position comes before the one the run starts from. -/
theorem filter_visitsFrom_of_lt {index bound : Nat}
    (hbound : bound < index + 2 + options.heuristics.window) (lines : List Text) :
    (options.visitsFrom index lines).filter (fun visit =>
      visit.1 + 2 + options.heuristics.window ≤ bound) = [] := by
  rw [List.filter_eq_nil_iff]
  intro visit hmem
  obtain ⟨passed, hindex, _⟩ := Segment.source_prefix_of_mem_placed hmem
  rw [decide_eq_true_eq]
  omega

theorem filter_visitsFrom_append {before left : List Text} (right : List Text) {index bound : Nat}
    (hbound : index + before.length = bound) :
    (options.visitsFrom index (before ++ left)).filter (fun visit =>
        visit.1 + 2 + options.heuristics.window ≤ bound) =
      (options.visitsFrom index (before ++ right)).filter (fun visit =>
        visit.1 + 2 + options.heuristics.window ≤ bound) := by
  -- Both runs take the same step as long as the window lies inside, so the induction is along
  -- one of them, with what is left of the common beginning.
  generalize hlines : before ++ left = lines
  induction lines using walk_induction options generalizing before index with
  | nil =>
      obtain ⟨rfl, -⟩ := List.append_eq_nil_iff.mp hlines
      rw [List.length_nil] at hbound
      rw [filter_visitsFrom_of_lt (by omega), filter_visitsFrom_of_lt (by omega)]
  | line line rest hopens ih =>
      rcases Nat.lt_or_ge before.length (2 + options.heuristics.window) with hshort | hinside
      · rw [filter_visitsFrom_of_lt (by omega), filter_visitsFrom_of_lt (by omega)]
      · have hright := (opensEmpty_append_congr hinside left right).symm.trans
          ((congrArg options.opensEmpty hlines).trans hopens)
        obtain ⟨first, second, more, rfl, _⟩ := exists_cons_cons_of_window hinside
        obtain ⟨rfl, hrest⟩ := List.cons.inj hlines
        rw [List.length_cons] at hbound
        rw [List.cons_append] at hright ⊢
        rw [visitsFrom_of_not_opensEmpty hopens, visitsFrom_of_not_opensEmpty hright,
          List.filter_cons, List.filter_cons, ih (by omega) hrest]
  | dimmed divider header body hopens ih =>
      rcases Nat.lt_or_ge before.length (2 + options.heuristics.window) with hshort | hinside
      · rw [filter_visitsFrom_of_lt (by omega), filter_visitsFrom_of_lt (by omega)]
      · have hright := (opensEmpty_append_congr hinside left right).symm.trans
          ((congrArg options.opensEmpty hlines).trans hopens)
        obtain ⟨first, second, more, rfl, _⟩ := exists_cons_cons_of_window hinside
        obtain ⟨rfl, hrest⟩ := List.cons.inj hlines
        obtain ⟨rfl, hbody⟩ := List.cons.inj hrest
        rw [List.length_cons, List.length_cons] at hbound
        rw [List.cons_append, List.cons_append] at hright ⊢
        rw [visitsFrom_of_opensEmpty hopens, visitsFrom_of_opensEmpty hright,
          List.filter_cons, List.filter_cons, ih (by omega) hbody]

/-- Two runs over transcripts that begin with the same lines go through the same positions and
decide on the same segments there, as far as a position, the line after it and the window lie
within these lines. What a run reports and prints is what its positions say, and the segment
of a position stands for the lines from there on. -/
theorem stream_lookahead (options : Options) (before left right : List Text) :
    let decided := fun lines => (options.visitsFrom 0 lines).filter fun visit =>
      visit.1 + 2 + options.heuristics.window ≤ before.length
    decided (before ++ left) = decided (before ++ right) ∧
      ∀ lines,
        (options.stream Sink.journal lines).run [] =
            (options.stats lines, (options.visitsFrom 0 lines).flatMap fun visit =>
              visit.2.entries options.color visit.1) ∧
          ∀ visit ∈ options.visitsFrom 0 lines, visit.2.source <+: lines.drop visit.1 := by
  refine ⟨filter_visitsFrom_append right (Nat.zero_add before.length), ?_⟩
  intro lines
  refine ⟨options.run_stream_journal lines, ?_⟩
  intro visit hmem
  obtain ⟨passed, hindex, hsource⟩ := Segment.source_prefix_of_mem_placed hmem
  rw [flatMap_source_segments] at hsource
  rw [hindex, Nat.zero_add]
  exact hsource

end Options

end Transcript
