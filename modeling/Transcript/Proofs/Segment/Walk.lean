import Transcript.Segment

/-!
# Walking a transcript

A transcript is walked from its front. Either its first two lines announce an empty
section and the walk goes on behind them, or the first line is decided on alone. Facts
about segments are proved along these steps.
-/

namespace Transcript

attribute [ext] Stats

namespace Stats

@[simp] theorem linesIn_add (a b : Stats) : (a + b).linesIn = a.linesIn + b.linesIn := rfl

@[simp] theorem linesOut_add (a b : Stats) : (a + b).linesOut = a.linesOut + b.linesOut := rfl

@[simp] theorem sectionsDimmed_add (a b : Stats) :
    (a + b).sectionsDimmed = a.sectionsDimmed + b.sectionsDimmed := rfl

@[simp] theorem linesWrapped_add (a b : Stats) :
    (a + b).linesWrapped = a.linesWrapped + b.linesWrapped := rfl

theorem add_assoc (a b c : Stats) : a + b + c = a + (b + c) :=
  Stats.ext (Nat.add_assoc _ _ _) (Nat.add_assoc _ _ _) (Nat.add_assoc _ _ _)
    (Nat.add_assoc _ _ _)

theorem zero_add (a : Stats) : zero + a = a :=
  Stats.ext (Nat.zero_add _) (Nat.zero_add _) (Nat.zero_add _) (Nat.zero_add _)

end Stats

namespace Options

/-- Whether the first two lines announce a section that is empty, as far as the lines
after them show. -/
def opensEmpty (options : Options) : List Text → Bool
  | line :: header :: body => options.announcesEmpty line header body
  | _ => false

/-- What a line is wrapped to, if it is a status line that does not fit. -/
def wrapped? (options : Options) (line : Text) : Option (List Text) :=
  (StatusLine.parse? line).bind (·.wrap? options.columns)

/-- The counts over a transcript. -/
def stats (options : Options) (lines : List Text) : Stats :=
  (options.segments lines).foldr (fun segment counts => segment.stats + counts) .zero

variable {options : Options}

theorem lineSegment_of_wrapped? {line : Text} {parts : List Text}
    (hwrapped : options.wrapped? line = some parts) :
    options.lineSegment line = .wrapped line parts := by
  unfold wrapped? at hwrapped
  rw [lineSegment, hwrapped]

theorem lineSegment_of_not_wrapped? {line : Text} (hwrapped : options.wrapped? line = none) :
    options.lineSegment line = .kept line := by
  unfold wrapped? at hwrapped
  rw [lineSegment, hwrapped]

theorem source_lineSegment (options : Options) (line : Text) :
    (options.lineSegment line).source = [line] := by
  cases hwrapped : options.wrapped? line with
  | none => rw [lineSegment_of_not_wrapped? hwrapped, Segment.source]
  | some parts => rw [lineSegment_of_wrapped? hwrapped, Segment.source]

theorem output_lineSegment (line : Text) :
    (options.lineSegment line).output options.color = (options.wrapped? line).getD [line] := by
  cases hwrapped : options.wrapped? line with
  | none => rw [lineSegment_of_not_wrapped? hwrapped, Segment.output, Option.getD_none]
  | some parts => rw [lineSegment_of_wrapped? hwrapped, Segment.output, Option.getD_some]

theorem stats_lineSegment (line : Text) :
    (options.lineSegment line).stats =
      ⟨1, ((options.wrapped? line).getD [line]).length, 0,
        if (options.wrapped? line).isSome then 1 else 0⟩ := by
  cases hwrapped : options.wrapped? line with
  | none => rw [lineSegment_of_not_wrapped? hwrapped]; rfl
  | some parts => rw [lineSegment_of_wrapped? hwrapped]; rfl

theorem segments_of_opensEmpty {line header : Text} {body : List Text}
    (hopens : options.opensEmpty (line :: header :: body) = true) :
    options.segments (line :: header :: body) = .dimmed line header :: options.segments body := by
  have hannounces : options.announcesEmpty line header body = true := hopens
  rw [segments, if_pos hannounces]

theorem segments_of_not_opensEmpty {line : Text} {rest : List Text}
    (hopens : options.opensEmpty (line :: rest) = false) :
    options.segments (line :: rest) = options.lineSegment line :: options.segments rest := by
  cases rest with
  | nil => rfl
  | cons header body =>
      have hannounces : options.announcesEmpty line header body = false := hopens
      rw [segments, if_neg (Bool.eq_false_iff.mp hannounces)]

/-- Induction along the walk over a transcript. -/
@[elab_as_elim]
theorem walk_induction (options : Options) {motive : List Text → Prop} (nil : motive [])
    (line : ∀ line rest, options.opensEmpty (line :: rest) = false → motive rest →
      motive (line :: rest))
    (dimmed : ∀ divider header body, options.opensEmpty (divider :: header :: body) = true →
      motive body → motive (divider :: header :: body)) (lines : List Text) : motive lines := by
  fun_induction options.segments lines with
  | case1 => exact nil
  | case2 last => exact line last [] rfl nil
  | case3 divider header body hannounces ih => exact dimmed divider header body hannounces ih
  | case4 first header body hannounces ih =>
      exact line first (header :: body) (Bool.eq_false_iff.mpr hannounces) ih

theorem formatLines_of_opensEmpty {line header : Text} {body : List Text}
    (hopens : options.opensEmpty (line :: header :: body) = true) :
    options.formatLines (line :: header :: body) =
      Decoration.dimIf options.color line :: Decoration.dimIf options.color header ::
        options.formatLines body := by
  rw [formatLines, segments_of_opensEmpty hopens]
  rfl

theorem formatLines_of_not_opensEmpty {line : Text} {rest : List Text}
    (hopens : options.opensEmpty (line :: rest) = false) :
    options.formatLines (line :: rest) =
      (options.lineSegment line).output options.color ++ options.formatLines rest := by
  rw [formatLines, segments_of_not_opensEmpty hopens, List.flatMap_cons]
  rfl

theorem stats_of_opensEmpty {line header : Text} {body : List Text}
    (hopens : options.opensEmpty (line :: header :: body) = true) :
    options.stats (line :: header :: body) = ⟨2, 2, 1, 0⟩ + options.stats body := by
  rw [stats, segments_of_opensEmpty hopens]
  rfl

theorem stats_of_not_opensEmpty {line : Text} {rest : List Text}
    (hopens : options.opensEmpty (line :: rest) = false) :
    options.stats (line :: rest) = (options.lineSegment line).stats + options.stats rest := by
  rw [stats, segments_of_not_opensEmpty hopens]
  rfl

end Options

end Transcript
