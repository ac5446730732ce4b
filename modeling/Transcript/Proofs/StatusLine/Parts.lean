import Transcript.Proofs.Layout.Widths
import Transcript.Proofs.StatusLine.Grammar

/-!
# The parts of a wrapped status line

A wrapped status line prints a line that opens with the marker and lines that continue the
description. Each of them fits the terminal, or holds one word that does not fit behind the
marker. Only a status line without description may print a marker that does not fit.
-/

namespace Transcript

namespace StatusLine

variable {status : StatusLine} {columns : Nat}

/-- The first line that a wrapped status line prints. -/
inductive Opens (status : StatusLine) (columns : Nat) : Text → Prop
  /-- The marker alone, when there is no description. -/
  | bare (hempty : status.description = []) (hlong : columns < status.indentWidth) :
      Opens status columns status.lead
  /-- The marker and as many words as fit behind it. -/
  | packed {word : Text} {rest : List Text}
      (hwords : ∀ other ∈ word :: rest, other ∈ status.description.words)
      (hfits : (status.lead ++ Text.joinWith [' '] (word :: rest)).length ≤ columns) :
      Opens status columns (status.lead ++ Text.joinWith [' '] (word :: rest))
  /-- The marker and a word that does not fit behind it. -/
  | pushed {word : Text} (hword : word ∈ status.description.words)
      (hlong : columns < status.indentWidth + word.length) :
      Opens status columns (status.lead ++ (Text.blanks status.indentWidth ++ word))

/-- A later line that a wrapped status line prints. -/
inductive Continues (status : StatusLine) (columns : Nat) : Text → Prop
  /-- As many words as fit. -/
  | packed {word : Text} {rest : List Text}
      (hwords : ∀ other ∈ word :: rest, other ∈ status.description.words)
      (hfits : (Text.blanks status.indentWidth ++ Text.joinWith [' '] (word :: rest)).length ≤
        columns) :
      Continues status columns
        (Text.blanks status.indentWidth ++ Text.joinWith [' '] (word :: rest))
  /-- A word that does not fit. -/
  | lone {word : Text} (hword : word ∈ status.description.words)
      (hlong : columns < status.indentWidth + word.length) :
      Continues status columns (Text.blanks status.indentWidth ++ word)

/-! ## Widths -/

theorem length_lead (status : StatusLine) : status.lead.length = status.indentWidth := by
  rw [lead, List.length_append, List.length_append, List.length_singleton, indentWidth]

theorem length_render (status : StatusLine) :
    status.render.length = status.indentWidth + status.description.length := by
  rw [render, List.length_append, length_lead]

theorem wrap?_eq_none_iff : status.wrap? columns = none ↔ status.render.length ≤ columns := by
  unfold wrap?
  split
  next hfits => exact iff_of_true rfl hfits
  next hlong =>
    refine iff_of_false ?_ hlong
    split <;> exact Option.some_ne_none _

theorem lt_length_render_of_wrap? {parts : List Text} (hwrap : status.wrap? columns = some parts) :
    columns < status.render.length := by
  rw [← Nat.not_le, ← wrap?_eq_none_iff, hwrap]
  exact Option.some_ne_none parts

theorem ne_nil_of_wrap? {parts : List Text} (hwrap : status.wrap? columns = some parts) :
    parts ≠ [] := by
  unfold wrap? at hwrap
  split at hwrap
  next => simp at hwrap
  next =>
    split at hwrap <;>
      · cases hwrap
        simp

theorem wrap?_of_layout {first : Text} {rest : List Text} (hlong : columns < status.render.length)
    (hlayout : Layout.wrap status.description status.indentWidth (columns - status.indentWidth) =
      first :: rest) :
    status.wrap? columns = some ((status.lead ++ first) :: rest) := by
  rw [wrap?, if_neg (Nat.not_le_of_lt hlong), hlayout]

theorem Written.length_eq {gap line : Text} (hwritten : Written status gap line) :
    line.length + 1 = status.render.length + gap.length := by
  rw [hwritten.line_eq, length_render, indentWidth]
  simp only [List.length_append]
  omega

theorem Written.length_render_le {gap line : Text} (hwritten : Written status gap line) :
    status.render.length ≤ line.length := by
  have hlength := hwritten.length_eq
  have hgap := List.length_pos_iff.mpr hwritten.gap_ne_nil
  omega

/-- A status line is written with a gap of one space when it is printed. -/
theorem Written.render {gap line : Text} (hwritten : Written status gap line) :
    Written status [' '] status.render :=
  { hwritten with
    line_eq := rfl
    gap_blank := Text.isBlank_blanks 1
    gap_ne_nil := List.cons_ne_nil _ _ }

/-! ## Wrapping -/

theorem wrap?_of_bare (hempty : status.description = []) (hlong : columns < status.indentWidth) :
    status.wrap? columns = some [status.lead] := by
  have hrender : columns < status.render.length := by
    rw [length_render]
    omega
  have hlayout : Layout.wrap status.description status.indentWidth
      (columns - status.indentWidth) = [[]] := by
    rw [hempty]
    rfl
  rw [wrap?_of_layout hrender hlayout, List.append_nil]

theorem wrap?_of_words (hsolid : ∀ c ∈ status.description.head?, Text.isSpace c = false)
    (hlong : columns < status.render.length) {first : Text} {rest : List Text}
    (hwords : status.description.words = first :: rest) :
    let width := status.indentWidth
    let opening := Layout.opening (columns - width) width [] first
    let rows := Layout.cut (columns - width) width (opening.length + first.length) rest
    status.wrap? columns = some ((status.lead ++ Row.render ⟨opening, first :: rows.1⟩) ::
      rows.2.map fun words => Row.render ⟨Text.blanks width, words⟩) := by
  have hne : status.description ≠ [] := by
    intro hempty
    rw [hempty] at hwords
    exact absurd hwords (List.cons_ne_nil first rest).symm
  have hwide : columns - status.indentWidth < status.description.length := by
    have hpos := List.length_pos_iff.mpr hne
    rw [length_render] at hlong
    omega
  have hlead : status.description.leadingSpace = [] :=
    Text.leadingSpace_append (fun _ hmem => absurd hmem List.not_mem_nil) hsolid
  dsimp only
  apply wrap?_of_layout hlong
  rw [Layout.wrap_of_words hwide hwords, hlead, Layout.rows, List.map_cons, List.map_map]
  rfl

/-- A description that is one word and does not fit is pushed away from the marker. -/
theorem wrap?_of_pushed (hword : Text.IsWord status.description)
    (hlong : columns < status.indentWidth + status.description.length) :
    status.wrap? columns = some
      [status.lead ++ (Text.blanks status.indentWidth ++ status.description)] := by
  have hpos := List.length_pos_iff.mpr hword.ne_nil
  rw [wrap?_of_words hword.head_solid (by rw [length_render]; exact hlong)
    (Text.words_of_isWord hword)]
  have hover : columns - status.indentWidth < ([] : Text).length + status.description.length := by
    rw [List.length_nil]
    omega
  rw [Layout.opening_of_lt hover, Layout.cut, Row.render_singleton, List.map_nil]

theorem opens_of_words {first : Text} {rest : List Text}
    (hwords : status.description.words = first :: rest) :
    let width := status.indentWidth
    let opening := Layout.opening (columns - width) width [] first
    let rows := Layout.cut (columns - width) width (opening.length + first.length) rest
    Opens status columns (status.lead ++ Row.render ⟨opening, first :: rows.1⟩) := by
  have hfirst : first ∈ status.description.words := hwords ▸ List.mem_cons_self
  have hpos := List.length_pos_iff.mpr (Text.isWord_of_mem_words hfirst).ne_nil
  have hlength : ([] : Text).length + first.length = first.length := Nat.zero_add _
  dsimp only
  rcases Nat.lt_or_ge (columns - status.indentWidth) (([] : Text).length + first.length) with
    hlong | hfits
  · -- The word is indented as on a later row, although the marker stands before it.
    rw [Layout.render_first_row_of_lt hlong (by omega)]
    exact .pushed hfirst (by omega)
  · rw [Layout.opening_of_le hfits]
    apply Opens.packed
    · intro other hmem
      rw [hwords]
      rcases List.mem_cons.mp hmem with rfl | hmem
      · exact List.mem_cons_self
      · exact List.mem_cons_of_mem first (Layout.mem_of_mem_cut_fst hmem)
    · have hrow := Layout.length_first_row_le status.indentWidth rest hfits
      simp only [Row.render, List.nil_append] at hrow
      rw [List.length_append, length_lead]
      omega

theorem continues_of_mem_cut {used : Nat} {rest row : List Text}
    (hrest : ∀ word ∈ rest, word ∈ status.description.words)
    (hrow : row ∈ (Layout.cut (columns - status.indentWidth) status.indentWidth used rest).2) :
    Continues status columns (Row.render ⟨Text.blanks status.indentWidth, row⟩) := by
  have hmem : ∀ word ∈ row, word ∈ status.description.words :=
    fun word hword => hrest word (Layout.mem_of_mem_cut_snd hrow hword)
  obtain ⟨word, more, rfl, hshape⟩ := Layout.cut_snd_fits _ _ used rest row hrow
  rcases Nat.lt_or_ge columns (Row.render ⟨Text.blanks status.indentWidth, word :: more⟩).length with
    hlong | hfits
  · obtain rfl : more = [] := hshape.resolve_right fun hfits => by omega
    rw [Row.length_render_cons, Text.length_blanks, Text.trailing] at hlong
    rw [Row.render_singleton]
    exact .lone (hmem word List.mem_cons_self) hlong
  · exact .packed hmem hfits

/-- The lines that a status line is wrapped to: one that opens with the marker, then lines
that continue the description. -/
theorem parts_of_wrap? (hsolid : ∀ c ∈ status.description.head?, Text.isSpace c = false)
    {parts : List Text} (hwrap : status.wrap? columns = some parts) :
    ∃ first rest, parts = first :: rest ∧ Opens status columns first ∧
      ∀ part ∈ rest, Continues status columns part := by
  have hlong := lt_length_render_of_wrap? hwrap
  by_cases hdescription : status.description = []
  · rw [length_render, hdescription] at hlong
    rw [wrap?_of_bare hdescription hlong] at hwrap
    cases hwrap
    exact ⟨_, [], rfl, .bare hdescription hlong, fun _ hmem => absurd hmem List.not_mem_nil⟩
  · obtain ⟨first, rest, hwords⟩ := Text.exists_words_eq_cons hdescription hsolid
    rw [wrap?_of_words hsolid hlong hwords] at hwrap
    cases hwrap
    refine ⟨_, _, rfl, opens_of_words hwords, ?_⟩
    intro part hpart
    obtain ⟨row, hrow, rfl⟩ := List.mem_map.mp hpart
    refine continues_of_mem_cut ?_ hrow
    intro word hword
    rw [hwords]
    exact List.mem_cons_of_mem first hword

end StatusLine

end Transcript
