import Transcript.Proofs.Segment.Counts
import Transcript.Proofs.Segment.Seam

/-!
# Larger windows

Whoever looks further ahead finds more content and never less, so a section that is empty in a
larger window is empty in a smaller one. Runs with different windows part as soon as only one
of them dims a section. Still the larger window dims no line that the smaller one keeps,
because whether a line is dimmed does not depend on how the walk came to it. A window that
takes in the whole transcript is as good as any larger one.
-/

namespace Transcript

namespace Heuristics

/-- The same heuristics with another window. -/
def withWindow (heuristics : Heuristics) (window : Nat) : Heuristics := { heuristics with window }

variable {heuristics : Heuristics}

theorem Separates.withWindow (hseparates : heuristics.Separates) (window : Nat) :
    (heuristics.withWindow window).Separates :=
  ⟨hseparates.dividerLength_pos, hseparates.headerPrefix_head⟩

/-! ## The verdict in two windows -/

theorem isEmptySection_withWindow {window : Nat} {body : List Text} :
    (heuristics.withWindow window).isEmptySection body = true ↔
      ∀ k < window, ∀ line ∈ body[k]?, heuristics.isNoise line = false →
        ∃ j ≤ k, heuristics.EndsAt body j :=
  isEmptySection_eq_true_iff

variable {narrow wide : Nat}

/-- A section that is empty in a larger window is empty in a smaller one. -/
theorem isEmptySection_of_le (hle : narrow ≤ wide) {body : List Text}
    (hempty : (heuristics.withWindow wide).isEmptySection body = true) :
    (heuristics.withWindow narrow).isEmptySection body = true := by
  rw [isEmptySection_withWindow] at hempty ⊢
  exact fun k hlt => hempty k (Nat.lt_of_lt_of_le hlt hle)

/-- Behind the end of the transcript there is nothing to see. -/
theorem isEmptySection_of_length_le (hle : narrow ≤ wide) {body : List Text}
    (hlength : body.length ≤ narrow) :
    (heuristics.withWindow wide).isEmptySection body =
      (heuristics.withWindow narrow).isEmptySection body := by
  rw [Bool.eq_iff_iff]
  refine ⟨isEmptySection_of_le hle, ?_⟩
  rw [isEmptySection_withWindow, isEmptySection_withWindow]
  intro hends k _ line hline
  have hlt : k < body.length := (List.getElem?_eq_some_iff.mp hline).1
  exact hends k (Nat.lt_of_lt_of_le hlt hlength) line hline

end Heuristics

namespace Options

/-! ## Dimmed lines -/

/-- The indices of the lines that a run dims, from the line of index `index` on. -/
def dimmedFrom (options : Options) (index : Nat) (lines : List Text) : List Nat :=
  (options.visitsFrom index lines).flatMap fun visit =>
    if visit.2.isDimmed then [visit.1, visit.1 + 1] else []

/-- The indices of the lines that a run dims. -/
def dimmedIndices (options : Options) (lines : List Text) : List Nat := options.dimmedFrom 0 lines

variable {options : Options}

theorem isDimmed_lineSegment (line : Text) : (options.lineSegment line).isDimmed = false := by
  cases hwrapped : options.wrapped? line with
  | none => rw [lineSegment_of_not_wrapped? hwrapped]; rfl
  | some parts => rw [lineSegment_of_wrapped? hwrapped]; rfl

theorem dimmedFrom_of_opensEmpty {line header : Text} {body : List Text}
    (hopens : options.opensEmpty (line :: header :: body) = true) (index : Nat) :
    options.dimmedFrom index (line :: header :: body) =
      index :: (index + 1) :: options.dimmedFrom (index + 2) body := by
  rw [dimmedFrom, visitsFrom_of_opensEmpty hopens]
  rfl

theorem dimmedFrom_of_not_opensEmpty {line : Text} {rest : List Text}
    (hopens : options.opensEmpty (line :: rest) = false) (index : Nat) :
    options.dimmedFrom index (line :: rest) = options.dimmedFrom (index + 1) rest := by
  rw [dimmedFrom, visitsFrom_of_not_opensEmpty hopens, List.flatMap_cons,
    isDimmed_lineSegment, if_neg Bool.false_ne_true, List.nil_append, dimmedFrom]

theorem length_dimmedFrom (options : Options) (index : Nat) (lines : List Text) :
    (options.dimmedFrom index lines).length = 2 * (options.stats lines).sectionsDimmed := by
  induction lines using walk_induction options generalizing index with
  | nil => rfl
  | line line rest hopens ih =>
      rw [dimmedFrom_of_not_opensEmpty hopens, stats_of_not_opensEmpty hopens, ih,
        stats_lineSegment, Stats.sectionsDimmed_add, Nat.zero_add]
  | dimmed divider header body hopens ih =>
      rw [dimmedFrom_of_opensEmpty hopens, stats_of_opensEmpty hopens, List.length_cons,
        List.length_cons, ih, Stats.sectionsDimmed_add]
      dsimp only
      omega

theorem filter_range_succ (p : Nat → Bool) (n : Nat) :
    (List.range (n + 1)).filter p =
      (if p 0 then [0] else []) ++ ((List.range n).filter fun i => p (i + 1)).map (· + 1) := by
  have hmap : ((List.range n).map Nat.succ).filter p =
      ((List.range n).filter fun i => p (i + 1)).map (· + 1) := List.filter_map ..
  rw [List.range_succ_eq_map, List.filter_cons, hmap]
  cases p 0 <;> rfl

/-- A run dims the lines for which the rule for one index says so. -/
theorem dimmedFrom_eq_filter (hseparates : options.heuristics.Separates) (index : Nat)
    (lines : List Text) :
    options.dimmedFrom index lines =
      ((List.range lines.length).filter (options.dimsAt lines)).map (index + ·) := by
  induction lines using walk_induction options generalizing index with
  | nil => rfl
  | line line rest hopens ih =>
      have hshift : ((index + ·) ∘ (· + 1) : Nat → Nat) = (index + 1 + ·) :=
        funext fun i => by dsimp only [Function.comp]; omega
      rw [dimmedFrom_of_not_opensEmpty hopens, ih, List.length_cons, filter_range_succ, dimsAt_zero,
        hopens, if_neg Bool.false_ne_true, List.nil_append, List.map_map, hshift]
      simp only [dimsAt_cons_succ hopens]
  | dimmed divider header body hopens ih =>
      have hheader := opensEmpty_header hseparates hopens
      have hshift : ((index + ·) ∘ (· + 1) ∘ (· + 1) : Nat → Nat) = (index + 2 + ·) :=
        funext fun i => by dsimp only [Function.comp]; omega
      rw [dimmedFrom_of_opensEmpty hopens, ih, List.length_cons, List.length_cons,
        filter_range_succ, filter_range_succ, dimsAt_zero, hopens, dimsAt_one hopens]
      simp only [dimsAt_cons_cons hheader, if_true, List.map_append, List.map_map, hshift]
      rfl

theorem mem_dimmedIndices (hseparates : options.heuristics.Separates) {lines : List Text}
    {i : Nat} :
    i ∈ options.dimmedIndices lines ↔ i < lines.length ∧ options.dimsAt lines i = true := by
  have hshift : ((0 + ·) : Nat → Nat) = id := funext Nat.zero_add
  rw [dimmedIndices, dimmedFrom_eq_filter hseparates, hshift, List.map_id, List.mem_filter,
    List.mem_range]

/-! ## Two windows -/

section Window

variable {columns : Nat} {color : Bool} {heuristics : Heuristics} {narrow wide : Nat}

theorem announcesAt_of_le (hle : narrow ≤ wide) {lines : List Text} {i : Nat}
    (hannounces : announcesAt ⟨columns, color, heuristics.withWindow wide⟩ lines i = true) :
    announcesAt ⟨columns, color, heuristics.withWindow narrow⟩ lines i = true := by
  simp only [announcesAt, Bool.and_eq_true] at hannounces ⊢
  exact ⟨hannounces.1, Heuristics.isEmptySection_of_le hle hannounces.2⟩

theorem dimsAt_of_le (hle : narrow ≤ wide) {lines : List Text} {i : Nat}
    (hdims : dimsAt ⟨columns, color, heuristics.withWindow wide⟩ lines i = true) :
    dimsAt ⟨columns, color, heuristics.withWindow narrow⟩ lines i = true := by
  simp only [dimsAt, Bool.or_eq_true, Bool.and_eq_true] at hdims ⊢
  exact hdims.imp (announcesAt_of_le hle) (And.imp_right (announcesAt_of_le hle))

theorem opensEmpty_of_length_le (hle : narrow ≤ wide) {lines : List Text}
    (hlength : lines.length ≤ narrow) :
    opensEmpty ⟨columns, color, heuristics.withWindow wide⟩ lines =
      opensEmpty ⟨columns, color, heuristics.withWindow narrow⟩ lines := by
  match lines with
  | [] => rfl
  | [_] => rfl
  | line :: header :: body =>
      have hbody : body.length ≤ narrow := by
        simp only [List.length_cons] at hlength
        omega
      exact congrArg (heuristics.isDivider line && heuristics.isHeader header && ·)
        (Heuristics.isEmptySection_of_length_le hle hbody)

/-- Windows that take in the whole transcript give the same segments. -/
theorem segments_of_length_le (hle : narrow ≤ wide) {lines : List Text}
    (hlength : lines.length ≤ narrow) :
    segments ⟨columns, color, heuristics.withWindow wide⟩ lines =
      segments ⟨columns, color, heuristics.withWindow narrow⟩ lines := by
  induction lines using walk_induction ⟨columns, color, heuristics.withWindow wide⟩ with
  | nil => rfl
  | line line rest hopens ih =>
      have hnarrow := (opensEmpty_of_length_le hle hlength).symm.trans hopens
      rw [List.length_cons] at hlength
      rw [segments_of_not_opensEmpty hopens, segments_of_not_opensEmpty hnarrow, ih (by omega)]
      rfl
  | dimmed divider header body hopens ih =>
      have hnarrow := (opensEmpty_of_length_le hle hlength).symm.trans hopens
      rw [List.length_cons, List.length_cons] at hlength
      rw [segments_of_opensEmpty hopens, segments_of_opensEmpty hnarrow, ih (by omega)]

end Window

/-- A larger window never dims more. When no header can be a divider, every line dimmed with
the larger window is dimmed with the smaller one, so that no more sections are dimmed. Once the
window takes in the whole transcript, enlarging it changes neither output nor counts. The lines
dimmed are two for each section counted. -/
theorem stream_window (columns : Nat) (color : Bool) {heuristics : Heuristics}
    (hseparates : heuristics.Separates) {narrow wide : Nat} (hle : narrow ≤ wide)
    (lines : List Text) :
    let options := fun window => Options.mk columns color (heuristics.withWindow window)
    let run := fun window => ((options window).stream Sink.collect lines).run []
    (∀ i ∈ (options wide).dimmedIndices lines, i ∈ (options narrow).dimmedIndices lines) ∧
      (run wide).1.sectionsDimmed ≤ (run narrow).1.sectionsDimmed ∧
      (lines.length ≤ narrow → run wide = run narrow) ∧
      ∀ window, ((options window).dimmedIndices lines).length =
        2 * (run window).1.sectionsDimmed := by
  intro options run
  have hwindow (window : Nat) : (options window).heuristics.Separates :=
    hseparates.withWindow window
  simp only [run, run_stream_collect]
  refine ⟨?_, ?_, ?_, fun window => length_dimmedFrom (options window) 0 lines⟩
  · intro i hmem
    rw [mem_dimmedIndices (hwindow _)] at hmem ⊢
    exact hmem.imp_right (dimsAt_of_le hle)
  · rw [sectionsDimmed_eq_countP (hwindow wide), sectionsDimmed_eq_countP (hwindow narrow)]
    exact List.countP_mono_left fun i _ => announcesAt_of_le hle
  · intro hlength
    have hsegments : (options wide).segments lines = (options narrow).segments lines :=
      segments_of_length_le hle hlength
    unfold stats formatLines
    rw [hsegments]

/-- A transcript with a section that prints a result behind a blank line, and one without
lines. -/
def lateResult : List Text := [['='], ['T'], [], ['*', ' ', 'a'], ['='], ['T', 's']]

/-- With a window of one line both sections are dimmed, with one of two lines the second. -/
theorem stream_window_lateResult :
    narrow.heuristics.Separates ∧ 1 ≤ 2 ∧
      dimmedIndices ⟨4, true, narrow.heuristics.withWindow 1⟩ lateResult = [0, 1, 4, 5] ∧
      dimmedIndices ⟨4, true, narrow.heuristics.withWindow 2⟩ lateResult = [4, 5] ∧
      ∀ i ∈ [4, 5], i ∈ [0, 1, 4, 5] := by
  have hseparates : narrow.heuristics.Separates := ⟨by decide, 'T', rfl, by decide⟩
  have hsmall : dimmedIndices ⟨4, true, narrow.heuristics.withWindow 1⟩ lateResult =
      [0, 1, 4, 5] := by decide
  have hlarge : dimmedIndices ⟨4, true, narrow.heuristics.withWindow 2⟩ lateResult = [4, 5] := by
    decide
  have hle : 1 ≤ 2 := by decide
  have hdims := (stream_window 4 true hseparates hle lateResult).1
  rw [hsmall, hlarge] at hdims
  exact ⟨hseparates, hle, hsmall, hlarge, hdims⟩

end Options

end Transcript
