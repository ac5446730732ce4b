import Transcript.Proofs.Stream

/-!
# Formatting line by line

When no line can be both a divider and a header, the walk over a transcript has no say in
what is printed: each line prints what its own index, the one before it and the lines
after it determine. The walk passes over two lines where a section is dimmed, but the
second of them is a header and so begins no section itself.
-/

namespace Transcript

/-- Heuristics under which no header is a divider. -/
structure Heuristics.Separates (heuristics : Heuristics) : Prop where
  dividerLength_pos : 1 ≤ heuristics.dividerLength
  headerPrefix_head : ∃ c ∈ heuristics.headerPrefix.head?, c ≠ '='

theorem Heuristics.Separates.isDivider_of_isHeader {heuristics : Heuristics}
    (hseparates : heuristics.Separates) {line : Text} (hheader : heuristics.isHeader line = true) :
    heuristics.isDivider line = false := by
  obtain ⟨c, hhead, hne⟩ := hseparates.headerPrefix_head
  obtain ⟨rest, hstart⟩ := List.head?_eq_some_iff.mp hhead
  obtain ⟨tail, htrim⟩ := List.isPrefixOf_iff_prefix.mp hheader
  rw [hstart, List.cons_append] at htrim
  have hrun : line.trim.takeWhile (· = '=') = [] := by
    rw [← htrim, List.takeWhile_cons_of_neg (by simpa using hne)]
  have hpos := hseparates.dividerLength_pos
  rw [isDivider, hrun, List.length_nil, decide_eq_false_iff_not]
  omega

/-! ## Indices from the front -/

theorem flatMap_range_succ (f : Nat → List Text) (n : Nat) :
    (List.range (n + 1)).flatMap f = f 0 ++ (List.range n).flatMap fun i => f (i + 1) := by
  rw [List.range_succ_eq_map, List.flatMap_cons, List.flatMap_map]

theorem countP_range_succ (p : Nat → Bool) (n : Nat) :
    (List.range (n + 1)).countP p = (p 0).toNat + (List.range n).countP fun i => p (i + 1) := by
  rw [List.range_succ_eq_map, List.countP_cons, List.countP_map, Nat.add_comm]
  cases p 0 <;> rfl

namespace Options

/-! ## The rule for one index -/

/-- Whether the line of index `i` is a divider, the next one a header, and the section of
the lines after them empty. -/
def announcesAt (options : Options) (lines : List Text) (i : Nat) : Bool :=
  lines[i]?.any options.heuristics.isDivider && lines[i + 1]?.any options.heuristics.isHeader
    && options.heuristics.isEmptyFrom lines (i + 2)

/-- Whether the line of index `i` is the divider or the header of an empty section. -/
def dimsAt (options : Options) (lines : List Text) (i : Nat) : Bool :=
  options.announcesAt lines i || (0 < i && options.announcesAt lines (i - 1))

/-- Whether the line of index `i` is wrapped. -/
def wrapsAt (options : Options) (lines : List Text) (i : Nat) : Bool :=
  !options.dimsAt lines i && lines[i]?.any fun line => (options.wrapped? line).isSome

/-- The lines printed for the line of index `i`. -/
def printedAt (options : Options) (lines : List Text) (i : Nat) : List Text :=
  match lines[i]? with
  | none => []
  | some line =>
    if options.dimsAt lines i then [Decoration.dimIf options.color line]
    else (options.wrapped? line).getD [line]

variable {options : Options}

theorem announcesAt_zero (lines : List Text) :
    options.announcesAt lines 0 = options.opensEmpty lines := by
  match lines with
  | [] => rfl
  | [_] => simp [announcesAt, opensEmpty]
  | line :: header :: body => rfl

/-- A section begins at most at every other line. -/
theorem announcesAt_succ (hseparates : options.heuristics.Separates) {lines : List Text} {i : Nat}
    (hannounces : options.announcesAt lines i = true) :
    options.announcesAt lines (i + 1) = false := by
  simp only [announcesAt, Bool.and_eq_true, Option.any_eq_true] at hannounces
  obtain ⟨⟨_, header, hget, hheader⟩, _⟩ := hannounces
  have hdivider := hseparates.isDivider_of_isHeader hheader
  simp [announcesAt, hget, hdivider]

/-! ## Moving the index -/

theorem announcesAt_cons_succ (line : Text) (rest : List Text) (i : Nat) :
    options.announcesAt (line :: rest) (i + 1) = options.announcesAt rest i := rfl

theorem dimsAt_cons_succ {line : Text} {rest : List Text}
    (hopens : options.opensEmpty (line :: rest) = false) (i : Nat) :
    options.dimsAt (line :: rest) (i + 1) = options.dimsAt rest i := by
  cases i with
  | zero =>
      have hfirst : options.announcesAt (line :: rest) 0 = false :=
        (announcesAt_zero (line :: rest)).trans hopens
      simp [dimsAt, announcesAt_cons_succ, hfirst]
  | succ i => simp [dimsAt, announcesAt_cons_succ]

theorem dimsAt_zero (lines : List Text) :
    options.dimsAt lines 0 = options.opensEmpty lines := by
  simp [dimsAt, announcesAt_zero]

theorem dimsAt_one {line header : Text} {body : List Text}
    (hopens : options.opensEmpty (line :: header :: body) = true) :
    options.dimsAt (line :: header :: body) 1 = true := by
  simp [dimsAt, announcesAt_zero, hopens]

/-- Behind a dimmed pair the indices are those of the rest. -/
theorem dimsAt_cons_cons {line header : Text} {body : List Text}
    (hopens : options.opensEmpty (header :: body) = false) (i : Nat) :
    options.dimsAt (line :: header :: body) (i + 2) = options.dimsAt body i := by
  rw [← dimsAt_cons_succ hopens]
  simp [dimsAt, announcesAt_cons_succ]

theorem printedAt_zero {line : Text} {rest : List Text}
    (hopens : options.opensEmpty (line :: rest) = false) :
    options.printedAt (line :: rest) 0 = (options.lineSegment line).output options.color := by
  simp [printedAt, dimsAt_zero, hopens, output_lineSegment]

theorem printedAt_of_opensEmpty {line header : Text} {body : List Text}
    (hopens : options.opensEmpty (line :: header :: body) = true) :
    options.printedAt (line :: header :: body) 0 = [Decoration.dimIf options.color line] := by
  simp [printedAt, dimsAt_zero, hopens]

theorem printedAt_one_of_opensEmpty {line header : Text} {body : List Text}
    (hopens : options.opensEmpty (line :: header :: body) = true) :
    options.printedAt (line :: header :: body) (0 + 1) =
      [Decoration.dimIf options.color header] := by
  simp [printedAt, dimsAt_one hopens]

theorem printedAt_cons_succ {line : Text} {rest : List Text}
    (hopens : options.opensEmpty (line :: rest) = false) (i : Nat) :
    options.printedAt (line :: rest) (i + 1) = options.printedAt rest i := by
  simp only [printedAt, List.getElem?_cons_succ, dimsAt_cons_succ hopens]

theorem printedAt_cons_cons {line header : Text} {body : List Text}
    (hopens : options.opensEmpty (header :: body) = false) (i : Nat) :
    options.printedAt (line :: header :: body) (i + 2) = options.printedAt body i := by
  simp only [printedAt, List.getElem?_cons_succ, dimsAt_cons_cons hopens]

theorem wrapsAt_zero {line : Text} {rest : List Text}
    (hopens : options.opensEmpty (line :: rest) = false) :
    options.wrapsAt (line :: rest) 0 = (options.wrapped? line).isSome := by
  simp [wrapsAt, dimsAt_zero, hopens]

theorem wrapsAt_cons_succ {line : Text} {rest : List Text}
    (hopens : options.opensEmpty (line :: rest) = false) (i : Nat) :
    options.wrapsAt (line :: rest) (i + 1) = options.wrapsAt rest i := by
  simp only [wrapsAt, List.getElem?_cons_succ, dimsAt_cons_succ hopens]

theorem wrapsAt_cons_cons {line header : Text} {body : List Text}
    (hopens : options.opensEmpty (header :: body) = false) (i : Nat) :
    options.wrapsAt (line :: header :: body) (i + 2) = options.wrapsAt body i := by
  simp only [wrapsAt, List.getElem?_cons_succ, dimsAt_cons_cons hopens]

/-- The header of an empty section announces no section with the line after it. -/
theorem opensEmpty_header (hseparates : options.heuristics.Separates) {line header : Text}
    {body : List Text} (hopens : options.opensEmpty (line :: header :: body) = true) :
    options.opensEmpty (header :: body) = false := by
  rw [← announcesAt_zero] at hopens ⊢
  exact announcesAt_succ hseparates hopens

/-! ## The whole transcript -/

/-- The formatted lines are what the indices print, in order. -/
theorem formatLines_eq_flatMap_printedAt (hseparates : options.heuristics.Separates)
    (lines : List Text) :
    options.formatLines lines = (List.range lines.length).flatMap (options.printedAt lines) := by
  induction lines using walk_induction options with
  | nil => rfl
  | line line rest hopens ih =>
      rw [formatLines_of_not_opensEmpty hopens, ih, List.length_cons, flatMap_range_succ,
        printedAt_zero hopens]
      simp only [printedAt_cons_succ hopens]
  | dimmed divider header body hopens ih =>
      -- The walk skips the header, so no index of the rest may look back at a pair it begins.
      have hheader := opensEmpty_header hseparates hopens
      rw [formatLines_of_opensEmpty hopens, ih, List.length_cons, List.length_cons,
        flatMap_range_succ, flatMap_range_succ, printedAt_of_opensEmpty hopens,
        printedAt_one_of_opensEmpty hopens]
      simp only [printedAt_cons_cons hheader]
      rfl

/-- As many sections are dimmed as are announced. -/
theorem sectionsDimmed_eq_countP (hseparates : options.heuristics.Separates) (lines : List Text) :
    (options.stats lines).sectionsDimmed =
      (List.range lines.length).countP (options.announcesAt lines) := by
  induction lines using walk_induction options with
  | nil => rfl
  | line line rest hopens ih =>
      rw [stats_of_not_opensEmpty hopens, stats_lineSegment, Stats.sectionsDimmed_add, ih,
        List.length_cons, countP_range_succ, announcesAt_zero, hopens]
      rfl
  | dimmed divider header body hopens ih =>
      have hheader := opensEmpty_header hseparates hopens
      rw [stats_of_opensEmpty hopens, Stats.sectionsDimmed_add, ih, List.length_cons,
        List.length_cons, countP_range_succ, countP_range_succ, announcesAt_zero, hopens,
        Nat.zero_add, announcesAt_cons_succ, announcesAt_zero, hheader]
      exact congrArg (1 + ·) (Nat.zero_add _).symm

/-- As many lines are wrapped as are status lines that do not fit and are not dimmed. -/
theorem linesWrapped_eq_countP (hseparates : options.heuristics.Separates) (lines : List Text) :
    (options.stats lines).linesWrapped =
      (List.range lines.length).countP (options.wrapsAt lines) := by
  induction lines using walk_induction options with
  | nil => rfl
  | line line rest hopens ih =>
      rw [stats_of_not_opensEmpty hopens, stats_lineSegment, Stats.linesWrapped_add, ih,
        List.length_cons, countP_range_succ, wrapsAt_zero hopens]
      simp only [wrapsAt_cons_succ hopens]
      cases (options.wrapped? line).isSome <;> rfl
  | dimmed divider header body hopens ih =>
      have hheader := opensEmpty_header hseparates hopens
      have hfirst : options.wrapsAt (divider :: header :: body) 0 = false := by
        simp [wrapsAt, dimsAt_zero, hopens]
      have hsecond : options.wrapsAt (divider :: header :: body) 1 = false := by
        simp [wrapsAt, dimsAt_one hopens]
      rw [stats_of_opensEmpty hopens, Stats.linesWrapped_add, ih, List.length_cons,
        List.length_cons, countP_range_succ, countP_range_succ, hfirst, Nat.zero_add, hsecond]
      simp only [wrapsAt_cons_cons hheader, Bool.toNat_false, Nat.zero_add]

/-- Each index decides for itself. What a run prints is what the rule for one index says,
index by index, and the counts are counts of indices. A pair of lines that is dimmed
shares no line with another. -/
theorem stream_pointwise (options : Options) (hseparates : options.heuristics.Separates)
    (lines : List Text) :
    let (counts, printed) := (options.stream Sink.collect lines).run []
    printed = (List.range lines.length).flatMap (options.printedAt lines) ∧
      counts.sectionsDimmed = (List.range lines.length).countP (options.announcesAt lines) ∧
      counts.linesWrapped = (List.range lines.length).countP (options.wrapsAt lines) ∧
      ∀ i, options.announcesAt lines i = true → options.announcesAt lines (i + 1) = false := by
  rw [run_stream_collect]
  exact ⟨formatLines_eq_flatMap_printedAt hseparates lines,
    sectionsDimmed_eq_countP hseparates lines, linesWrapped_eq_countP hseparates lines,
    fun _ hannounces => announcesAt_succ hseparates hannounces⟩

/-- Options for narrow transcripts: one equals sign divides, and a header begins with `T`. -/
def narrow : Options := ⟨4, true, ⟨3, 1, ['T'], [], []⟩⟩

theorem stream_pointwise_narrow :
    narrow.heuristics.Separates ∧
      ((narrow.stream Sink.collect
        [['='], ['T'], [], ['='], ['T', 's'], ['*', ' ', 'a', ' ', 'b']]).run []).2 =
        [Decoration.dim ['='], Decoration.dim ['T'], [], ['='], ['T', 's'],
          ['*', ' ', 'a'], [' ', ' ', 'b']] := by
  have hseparates : narrow.heuristics.Separates := ⟨by decide, 'T', rfl, by decide⟩
  exact ⟨hseparates, (stream_pointwise narrow hseparates _).1.trans (by decide)⟩

end Options

end Transcript
