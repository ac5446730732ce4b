import Transcript.Proofs.Segment.Partition
import Transcript.Proofs.Segment.Words

/-!
# Colour is decoration

The same segments are decided on with colour and without, so the counts agree and the two
outputs have equally many lines. They differ at the lines of dimmed pairs and nowhere else,
and there by the decoration alone.
-/

namespace Transcript

/-! ## Where outputs differ -/

/-- The positions at which the lines of an output are not those of another one. -/
def differences (printed other : List Text) : List Nat :=
  (List.range printed.length).filter fun i => printed[i]? != other[i]?

theorem mem_differences {printed other : List Text} {i : Nat} :
    i ∈ differences printed other ↔ i < printed.length ∧ printed[i]? ≠ other[i]? := by
  rw [differences, List.mem_filter, List.mem_range, bne_iff_ne]

theorem differences_self (printed : List Text) : differences printed printed = [] := by
  rw [differences, List.filter_eq_nil_iff]
  intro i _
  simp

theorem differences_append {printed other : List Text} (hlength : printed.length = other.length)
    (more others : List Text) :
    differences (printed ++ more) (other ++ others) =
      differences printed other ++ (differences more others).map (printed.length + ·) := by
  unfold differences
  rw [List.length_append, List.range_add, List.filter_append, List.filter_map]
  congr 1
  · apply List.filter_congr
    intro i hmem
    have hlt := List.mem_range.mp hmem
    rw [List.getElem?_append_left hlt, List.getElem?_append_left (hlength ▸ hlt)]
  · congr 1
    apply List.filter_congr
    intro i _
    simp [List.getElem?_append_right, hlength]

theorem Decoration.dim_ne (text : Text) : dim text ≠ text := by
  intro heq
  have hlength := congrArg List.length heq
  simp only [dim, gray, List.length_append, List.length_cons, List.length_nil] at hlength
  omega

namespace Segment

theorem length_output (segment : Segment) (color other : Bool) :
    (segment.output color).length = (segment.output other).length :=
  (segment.length_marks color).symm.trans (segment.length_marks other)

theorem length_flatMap_output (segments : List Segment) (color other : Bool) :
    (segments.flatMap (output color)).length = (segments.flatMap (output other)).length :=
  (length_flatMap_marks segments color).symm.trans (length_flatMap_marks segments other)

theorem output_eq_of_not_dimmed {segment : Segment} (hdimmed : segment.isDimmed = false)
    (color other : Bool) : segment.output color = segment.output other := by
  cases segment with
  | dimmed => cases hdimmed
  | wrapped => rfl
  | kept => rfl

theorem differences_output (segment : Segment) :
    differences (segment.output true) (segment.output false) =
      if segment.isDimmed then [0, 1] else [] := by
  cases hdimmed : segment.isDimmed with
  | false => rw [output_eq_of_not_dimmed hdimmed true false, differences_self]; rfl
  | true =>
      cases segment with
      | dimmed divider header =>
          simp [differences, output, Decoration.dimIf, List.range_succ, Decoration.dim_ne]
      | wrapped => cases hdimmed
      | kept => cases hdimmed

/-- A line that segments print in colour is the line they print without, or that line
decorated. -/
theorem getElem?_flatMap_output (segments : List Segment) (i : Nat) :
    (segments.flatMap (output true))[i]? = (segments.flatMap (output false))[i]? ∨
      (segments.flatMap (output true))[i]? =
        (segments.flatMap (output false))[i]?.map Decoration.dim := by
  have hlength := length_flatMap_marks segments false
  rw [← dimMarked_flatMap, Decoration.dimMarked, List.getElem?_zipWith]
  cases hmark : (segments.flatMap marks)[i]? with
  | none =>
      rw [List.getElem?_eq_none_iff, hlength, ← List.getElem?_eq_none_iff] at hmark
      exact .inl hmark.symm
  | some marked =>
      cases (segments.flatMap (output false))[i]? with
      | none => exact .inl rfl
      | some line => cases marked with
        | false => exact .inl rfl
        | true => exact .inr rfl

/-- The lines of a segment stand behind those of the segments before it. -/
theorem getElem?_flatMap_output_append (color other : Bool) (passed : List Segment)
    (segment : Segment) (ahead : List Segment) {j : Nat}
    (hline : j < (segment.output color).length) :
    ((passed ++ segment :: ahead).flatMap (output color))[
        (passed.flatMap (output other)).length + j]? = (segment.output color)[j]? := by
  rw [List.flatMap_append, List.flatMap_cons, length_flatMap_output passed other color,
    List.getElem?_append_right (Nat.le_add_right _ _), Nat.add_sub_cancel_left,
    List.getElem?_append_left hline]

/-- The lines of a segment differ with colour if it is a dimmed pair, and only then. -/
theorem mem_differences_flatMap (passed : List Segment) (segment : Segment)
    (ahead : List Segment) {j : Nat} (hline : j < (segment.output false).length) :
    (passed.flatMap (output false)).length + j ∈
        differences ((passed ++ segment :: ahead).flatMap (output true))
          ((passed ++ segment :: ahead).flatMap (output false)) ↔
      segment.isDimmed = true := by
  have hcolored : j < (segment.output true).length :=
    Nat.lt_of_lt_of_eq hline (segment.length_output false true)
  have hget := getElem?_flatMap_output_append true false passed segment ahead hcolored
  have hplain := getElem?_flatMap_output_append false false passed segment ahead hline
  rw [mem_differences, hget, hplain]
  constructor
  · rintro ⟨_, hne⟩
    by_contra hdimmed
    exact hne (congrArg (·[j]?) (output_eq_of_not_dimmed (Bool.eq_false_iff.mpr hdimmed) _ _))
  · intro hdimmed
    refine ⟨?_, ?_⟩
    · rw [List.flatMap_append, List.flatMap_cons, List.length_append, List.length_append,
        length_flatMap_output passed true false]
      omega
    · cases segment with
      | dimmed divider header =>
          match j with
          | 0 => exact fun heq => Decoration.dim_ne divider (Option.some.inj heq)
          | 1 => exact fun heq => Decoration.dim_ne header (Option.some.inj heq)
      | wrapped => cases hdimmed
      | kept => cases hdimmed

/-- What segments print in colour and without differs in pairs of a divider and the header
behind it, one for each dimmed pair of lines. -/
theorem differences_paired {options : Options} {segments : List Segment}
    (hallows : ∀ segment ∈ segments, options.Allows segment) :
    ∃ starts : List Nat,
      differences (segments.flatMap (output true)) (segments.flatMap (output false)) =
          starts.flatMap (fun i => [i, i + 1]) ∧
        starts.length = segments.countP isDimmed ∧
        ∀ i ∈ starts,
          (∃ divider ∈ (segments.flatMap (output false))[i]?,
            options.heuristics.isDivider divider = true) ∧
          ∃ header ∈ (segments.flatMap (output false))[i + 1]?,
            options.heuristics.isHeader header = true := by
  induction segments with
  | nil => exact ⟨[], rfl, rfl, fun _ hmem => absurd hmem List.not_mem_nil⟩
  | cons segment rest ih =>
      obtain ⟨hsegment, hrest⟩ := List.forall_mem_cons.mp hallows
      obtain ⟨starts, hpairs, hcount, hstarts⟩ := ih hrest
      have hlength := segment.length_output true false
      -- The pairs of the rest move behind the lines of the segment.
      have hshifted : ∀ i ∈ starts.map ((segment.output false).length + ·),
          (∃ divider ∈ (segment.output false ++ rest.flatMap (output false))[i]?,
            options.heuristics.isDivider divider = true) ∧
          ∃ header ∈ (segment.output false ++ rest.flatMap (output false))[i + 1]?,
            options.heuristics.isHeader header = true := by
        intro i hmem
        obtain ⟨start, hstart, rfl⟩ := List.mem_map.mp hmem
        rw [Nat.add_assoc, List.getElem?_append_right (Nat.le_add_right _ _),
          List.getElem?_append_right (Nat.le_add_right _ _), Nat.add_sub_cancel_left,
          Nat.add_sub_cancel_left]
        exact hstarts start hstart
      have hmoved : (starts.flatMap fun i => [i, i + 1]).map ((segment.output false).length + ·) =
          (starts.map ((segment.output false).length + ·)).flatMap fun i => [i, i + 1] := by
        rw [List.map_flatMap, List.flatMap_map]
        rfl
      simp only [List.flatMap_cons]
      rw [differences_append hlength, differences_output, hpairs, hlength, hmoved,
        countP_cons_toNat]
      cases hsegment with
      | @dimmed divider header hdivider hheader =>
          refine ⟨0 :: starts.map (2 + ·), rfl, ?_, ?_⟩
          · rw [List.length_cons, List.length_map, hcount, Nat.add_comm]
            rfl
          · exact List.forall_mem_cons.mpr
              ⟨⟨⟨divider, rfl, hdivider⟩, header, rfl, hheader⟩, hshifted⟩
      | wrapped =>
          refine ⟨_, rfl, ?_, hshifted⟩
          rw [List.length_map, hcount]
          exact (Nat.zero_add _).symm
      | kept =>
          refine ⟨_, rfl, ?_, hshifted⟩
          rw [List.length_map, hcount]
          exact (Nat.zero_add _).symm

end Segment

namespace Options

/-- Colour changes nothing but the decoration. The runs with colour and without decide on the
same segments, give the same counts and print equally many lines, and each line printed in
colour is the one printed without or that one decorated. The decorated lines are pairs of a
divider and the header behind it, one for each section dimmed, and the lines of dimmed
segments: no line of a wrapped status line is decorated. -/
theorem stream_color (columns : Nat) (heuristics : Heuristics) (lines : List Text) :
    let run := fun color => (stream ⟨columns, color, heuristics⟩ Sink.collect lines).run []
    let (counts, colored) := run true
    let (plainCounts, plain) := run false
    let decorated := differences colored plain
    counts = plainCounts ∧ colored.length = plain.length ∧
      (∀ i : Nat, colored[i]? = plain[i]? ∨ colored[i]? = plain[i]?.map Decoration.dim) ∧
      decorated.length = 2 * counts.sectionsDimmed ∧
      (∃ starts : List Nat, decorated = starts.flatMap (fun i => [i, i + 1]) ∧
        ∀ i ∈ starts, (∃ divider ∈ plain[i]?, heuristics.isDivider divider = true) ∧
          ∃ header ∈ plain[i + 1]?, heuristics.isHeader header = true) ∧
      segments ⟨columns, true, heuristics⟩ lines = segments ⟨columns, false, heuristics⟩ lines ∧
      ∀ passed segment ahead,
        segments ⟨columns, true, heuristics⟩ lines = passed ++ segment :: ahead →
        ∀ j < (segment.output false).length,
          (passed.flatMap (Segment.output false)).length + j ∈ decorated ↔
            segment.isDimmed = true := by
  have hsegments := segments_color columns heuristics true false lines
  have hallows := allows_of_mem_segments ⟨columns, false, heuristics⟩ lines
  obtain ⟨starts, hpairs, hcount, hstarts⟩ := Segment.differences_paired hallows
  have hpairLength : ∀ i ∈ starts, [i, i + 1].length = 2 := fun _ _ => rfl
  simp only [run_stream_collect, stats_eq]
  unfold formatLines
  rw [hsegments]
  have hlength :=
    Segment.length_flatMap_output (segments ⟨columns, false, heuristics⟩ lines) true false
  refine ⟨?_, hlength, Segment.getElem?_flatMap_output _, ?_, ⟨starts, hpairs, hstarts⟩, rfl, ?_⟩
  · rw [hlength]
  · rw [hpairs, List.length_flatMap, List.map_congr_left hpairLength]
    rw [List.map_const', List.sum_replicate_nat, hcount, Nat.mul_comm]
  · intro passed segment ahead hcut j hline
    rw [hcut]
    exact Segment.mem_differences_flatMap passed segment ahead hline

end Options

end Transcript
