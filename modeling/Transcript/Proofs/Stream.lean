import Transcript.Proofs.Segment.Walk
import Transcript.Stream

/-!
# Streaming and formatting agree

A run goes through its transcript by positions and sends its sink the segment decided on at
each, whatever the sink makes of it. A sink that does nothing with notices is handed exactly
the formatted lines, in order, and the counts do not depend on it. This holds in every monad,
so a sink may keep a state and fail.
-/

namespace Transcript

/-- Segments with the index of their first lines, when the first of all has index `index`. -/
def Segment.placed (index : Nat) : List Segment → List (Nat × Segment)
  | [] => []
  | segment :: rest => (index, segment) :: placed (index + segment.source.length) rest

namespace Sink

variable {m : Type → Type} [Monad m]

/-- A sink that does nothing with notices. -/
def Quiet (sink : Sink m) : Prop := ∀ notice, sink.report notice = pure ()

theorem send_of_quiet [LawfulMonad m] {sink : Sink m} (hquiet : sink.Quiet) (color : Bool)
    (index : Nat) (segment : Segment) :
    sink.send color index segment = (segment.output color).forM sink.emit := by
  unfold send
  split
  next notice _ => rw [hquiet notice, pure_bind]
  next => rfl

theorem forM_placed_of_quiet [LawfulMonad m] {sink : Sink m} (hquiet : sink.Quiet) (color : Bool)
    (index : Nat) (segments : List Segment) :
    (Segment.placed index segments).forM (fun visit => sink.send color visit.1 visit.2) =
      (segments.flatMap (Segment.output color)).forM sink.emit := by
  induction segments generalizing index with
  | nil => rfl
  | cons segment rest ih =>
      have hrest := ih (index + segment.source.length)
      rw [List.forM_eq_forM] at hrest ⊢
      rw [Segment.placed, List.forM_cons, hrest, send_of_quiet hquiet, List.flatMap_cons,
        List.forM_eq_forM, List.forM_append]

/-- The sink that never fails and keeps every line it is handed. -/
def collect : Sink (StateM (List Text)) where
  emit line := modify (· ++ [line])
  report _ := pure ()

theorem collect_quiet : collect.Quiet := fun _ => rfl

theorem run_forM_collect (lines taken : List Text) :
    (lines.forM collect.emit).run taken = ((), taken ++ lines) := by
  induction lines generalizing taken with
  | nil =>
      rw [List.append_nil]
      rfl
  | cons line rest ih =>
      have hstep : ((line :: rest).forM collect.emit).run taken =
          (rest.forM collect.emit).run (taken ++ [line]) := rfl
      rw [hstep, ih, List.append_assoc, List.singleton_append]

end Sink

namespace Options

variable {m : Type → Type} [Monad m]

theorem streamFrom_of_opensEmpty {options : Options} {line header : Text} {body : List Text}
    (hopens : options.opensEmpty (line :: header :: body) = true) (sink : Sink m) (index : Nat)
    (counts : Stats) :
    options.streamFrom sink index counts (line :: header :: body) = (do
      sink.send options.color index (.dimmed line header)
      options.streamFrom sink (index + 2) (counts + ⟨2, 2, 1, 0⟩) body) := by
  have hannounces : options.announcesEmpty line header body = true := hopens
  rw [streamFrom, if_pos hannounces]
  rfl

theorem streamFrom_of_not_opensEmpty {options : Options} {line : Text} {rest : List Text}
    (hopens : options.opensEmpty (line :: rest) = false) (sink : Sink m) (index : Nat)
    (counts : Stats) :
    options.streamFrom sink index counts (line :: rest) = (do
      sink.send options.color index (options.lineSegment line)
      options.streamFrom sink (index + 1) (counts + (options.lineSegment line).stats) rest) := by
  cases rest with
  | nil => rfl
  | cons header body =>
      have hannounces : options.announcesEmpty line header body = false := hopens
      rw [streamFrom, if_neg (Bool.eq_false_iff.mp hannounces)]

/-! ## Positions -/

/-- The positions a run goes through, from the line of index `index` on, with the segment it
decides on at each. -/
def visitsFrom (options : Options) (index : Nat) (lines : List Text) : List (Nat × Segment) :=
  Segment.placed index (options.segments lines)

theorem visitsFrom_of_opensEmpty {options : Options} {line header : Text} {body : List Text}
    (hopens : options.opensEmpty (line :: header :: body) = true) (index : Nat) :
    options.visitsFrom index (line :: header :: body) =
      (index, .dimmed line header) :: options.visitsFrom (index + 2) body := by
  rw [visitsFrom, segments_of_opensEmpty hopens]
  rfl

theorem visitsFrom_of_not_opensEmpty {options : Options} {line : Text} {rest : List Text}
    (hopens : options.opensEmpty (line :: rest) = false) (index : Nat) :
    options.visitsFrom index (line :: rest) =
      (index, options.lineSegment line) :: options.visitsFrom (index + 1) rest := by
  rw [visitsFrom, segments_of_not_opensEmpty hopens, Segment.placed, source_lineSegment]
  rfl

/-- A run sends its sink the segments of its positions, one after the other, and adds their
counts. -/
theorem streamFrom_eq_forM [LawfulMonad m] (options : Options) (sink : Sink m) (index : Nat)
    (counts : Stats) (lines : List Text) :
    options.streamFrom sink index counts lines = (do
      (options.visitsFrom index lines).forM fun visit => sink.send options.color visit.1 visit.2
      pure (counts + options.stats lines)) := by
  -- Index and counts differ from step to step, so the induction is for all of them.
  induction lines using walk_induction options generalizing index counts with
  | nil =>
      have hnil : (options.visitsFrom index []).forM
          (fun visit => sink.send options.color visit.1 visit.2) = pure () := rfl
      rw [hnil, pure_bind]
      rfl
  | line line rest hopens ih =>
      rw [streamFrom_of_not_opensEmpty hopens, visitsFrom_of_not_opensEmpty hopens,
        stats_of_not_opensEmpty hopens, ih, ← Stats.add_assoc, List.forM_eq_forM,
        List.forM_cons, bind_assoc]
  | dimmed divider header body hopens ih =>
      rw [streamFrom_of_opensEmpty hopens, visitsFrom_of_opensEmpty hopens,
        stats_of_opensEmpty hopens, ih, ← Stats.add_assoc, List.forM_eq_forM,
        List.forM_cons, bind_assoc]

/-! ## Sinks that pass over notices -/

theorem stream_of_quiet [LawfulMonad m] (options : Options) {sink : Sink m} (hquiet : sink.Quiet)
    (lines : List Text) :
    options.stream sink lines = (do
      (options.formatLines lines).forM sink.emit
      pure (options.stats lines)) := by
  rw [stream, streamFrom_eq_forM, Stats.zero_add, visitsFrom, Sink.forM_placed_of_quiet hquiet,
    formatLines]

/-- A sink that keeps all lines is left with the formatted lines. -/
theorem run_stream_collect (options : Options) (lines : List Text) :
    (options.stream Sink.collect lines).run [] =
      (options.stats lines, options.formatLines lines) := by
  rw [stream_of_quiet options Sink.collect_quiet, StateT.run_bind, Sink.run_forM_collect]
  rfl

end Options

end Transcript
