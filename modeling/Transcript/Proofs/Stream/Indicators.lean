import Transcript.Proofs.Section.FirstContent
import Transcript.Proofs.Stream

/-!
# Indicators change nothing

A line that holds an indicator ends the scan of a section, but so does in effect every other line
that is not noise: after one of them the section stays as it is judged there. So runs that differ
in their indicators alone dim the same sections, and hand the same lines to every sink.
-/

namespace Transcript.Options

variable {options : Options}

/-- The same options with other indicators. -/
def withIndicators (options : Options) (indicators : List Text) : Options :=
  { options with heuristics := options.heuristics.withIndicators indicators }

theorem opensEmpty_withIndicators (indicators lines : List Text) :
    (options.withIndicators indicators).opensEmpty lines = options.opensEmpty lines := by
  match lines with
  | [] => rfl
  | [_] => rfl
  | line :: header :: body =>
      have hsection := options.heuristics.isEmptySection_withIndicators indicators body
      exact congrArg
        (options.heuristics.isDivider line && options.heuristics.isHeader header && ·) hsection

theorem streamFrom_withIndicators {m : Type → Type} [Monad m] (indicators : List Text)
    (sink : Sink m) (index : Nat) (counts : Stats) (lines : List Text) :
    (options.withIndicators indicators).streamFrom sink index counts lines =
      options.streamFrom sink index counts lines := by
  induction lines using walk_induction options generalizing index counts with
  | nil => rfl
  | line line rest hopens ih =>
      have hopens' := (opensEmpty_withIndicators indicators _).trans hopens
      rw [streamFrom_of_not_opensEmpty hopens, streamFrom_of_not_opensEmpty hopens', ih]
      rfl
  | dimmed divider header body hopens ih =>
      have hopens' := (opensEmpty_withIndicators indicators _).trans hopens
      rw [streamFrom_of_opensEmpty hopens, streamFrom_of_opensEmpty hopens', ih]
      rfl

/-- A section is empty exactly if the lines of its window are noise, or the first of them that is
not noise is a divider and not the first line of the section, and noise is what is blank or holds a
noise marker when it is put in lowercase. This holds for every start and every window. Hence
indicators change neither the verdict on a section nor what a run does to its sink. -/
theorem stream_indicators (options : Options) (lines : List Text) :
    (∀ line, options.heuristics.isNoise line = true ↔
      line.trim = [] ∨
        ∃ marker ∈ options.heuristics.noiseMarkers, marker <:+: line.trim.toLower) ∧
      (∀ start, options.heuristics.isEmptyFrom lines start = true ↔
        let stop := min (start + options.heuristics.window) lines.length
        options.heuristics.NoiseBetween lines start stop ∨
          ∃ first, start < first ∧ first < stop ∧ options.heuristics.DividesAt lines first ∧
            options.heuristics.NoiseBetween lines start first) ∧
      ∀ indicators,
        (∀ start, (options.withIndicators indicators).heuristics.isEmptyFrom lines start =
          options.heuristics.isEmptyFrom lines start) ∧
        ∀ (m : Type → Type) [Monad m] (sink : Sink m),
          (options.withIndicators indicators).stream sink lines = options.stream sink lines := by
  refine ⟨fun _ => Heuristics.isNoise_eq_true_iff, fun _ => Heuristics.isEmptyFrom_eq_true_iff, ?_⟩
  intro indicators
  constructor
  · intro start
    exact options.heuristics.isEmptySection_withIndicators indicators (lines.drop start)
  · intro m _ sink
    exact streamFrom_withIndicators indicators sink 0 .zero lines

end Transcript.Options
