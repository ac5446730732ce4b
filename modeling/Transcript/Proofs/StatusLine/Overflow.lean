import Transcript.Proofs.Layout.Arrangement
import Transcript.Proofs.StatusLine.Parts

/-!
# Lines that are too long

A status line is wrapped only if it does not fit. Each line it is wrapped to shows a part of the
description right of the marker, and one that is longer than the terminal shows a single word,
which no line could hold behind the indentation.
-/

namespace Transcript.StatusLine

variable {status : StatusLine} {columns : Nat}

/-- The words that a line shows right of the marker, where the description stands. -/
def shown (status : StatusLine) (part : Text) : List Text :=
  Text.words (part.drop status.indentWidth)

theorem shown_lead_append (status : StatusLine) (text : Text) :
    status.shown (status.lead ++ text) = Text.words text := by
  rw [shown, ← length_lead, List.drop_left]

theorem shown_blanks_append (status : StatusLine) (text : Text) :
    status.shown (Text.blanks status.indentWidth ++ text) = Text.words text := by
  rw [shown, List.drop_left' (Text.length_blanks _)]

/-- The lines of a wrapped status line show the rows that its description is cut into. -/
theorem map_shown_of_words (hsolid : ∀ c ∈ status.description.head?, Text.isSpace c = false)
    {first : Text} {rest : List Text} (hwords : status.description.words = first :: rest)
    {parts : List Text} (hwrap : status.wrap? columns = some parts) :
    parts.map status.shown =
      Layout.rowWords (columns - status.indentWidth) status.indentWidth [] first rest := by
  have hlong := lt_length_render_of_wrap? hwrap
  have hcut := Layout.isCut_rowWords (columns - status.indentWidth) status.indentWidth [] first rest
  have hgroups : ∀ group ∈ Layout.rowWords (columns - status.indentWidth) status.indentWidth []
      first rest, ∀ word ∈ group, Text.IsWord word := by
    intro group hgroup word hword
    have hmem := List.mem_flatten_of_mem hgroup hword
    rw [hcut.flatten_eq, ← hwords] at hmem
    exact Text.isWord_of_mem_words hmem
  obtain ⟨hfirst, hlater⟩ := List.forall_mem_cons.mp hgroups
  rw [wrap?_of_words hsolid hlong hwords] at hwrap
  cases hwrap
  rw [List.map_cons, List.map_map, shown_lead_append, Layout.rowWords]
  congr 1
  · apply Row.words_render _ hfirst
    exact Layout.isBlank_opening _ _ (fun _ hmem => absurd hmem List.not_mem_nil) first
  · refine (List.map_congr_left ?_).trans (List.map_id _)
    intro row hrow
    rw [Function.comp_apply, Row.render, shown_blanks_append, Text.words_joinWith (hlater row hrow)]
    rfl

theorem Opens.shown_of_lt {part : Text} (hopens : Opens status columns part)
    (hdescription : status.description ≠ []) (hlong : columns < part.length) :
    ∃ word ∈ status.description.words, status.shown part = [word] ∧
      columns < word.length + status.indentWidth := by
  cases hopens with
  | bare hempty _ => contradiction
  | packed _ hfits => omega
  | @pushed word hword hover =>
      refine ⟨word, hword, ?_, by omega⟩
      rw [shown_lead_append, Text.words_append_of_isBlank (Text.isBlank_blanks _),
        Text.words_of_isWord (Text.isWord_of_mem_words hword)]

theorem Continues.shown_of_lt {part : Text} (hcontinues : Continues status columns part)
    (hlong : columns < part.length) :
    ∃ word ∈ status.description.words, status.shown part = [word] ∧
      columns < word.length + status.indentWidth := by
  cases hcontinues with
  | packed _ hfits => omega
  | @lone word hword hover =>
      refine ⟨word, hword, ?_, by omega⟩
      rw [shown_blanks_append, Text.words_of_isWord (Text.isWord_of_mem_words hword)]

/-- A status line is wrapped exactly if it does not fit with a gap of one space. Its description
is shown word by word, and every line that is longer than the terminal shows a single word that
does not fit behind the indentation. When the description would start beyond the terminal, every
word is on a line of its own. Without description the line is printed as it is, with a gap of one
space. -/
theorem overflow_unavoidable {line : Text} {status : StatusLine}
    (hparse : parse? line = some status) (columns : Nat) :
    (status.wrap? columns = none ↔ status.indentWidth + status.description.length ≤ columns) ∧
      ∀ parts, status.wrap? columns = some parts →
        (status.description = [] → parts = [status.render]) ∧
          (status.description ≠ [] →
            parts.flatMap status.shown = status.description.words ∧
              (∀ part ∈ parts, columns < part.length →
                ∃ word ∈ status.description.words, status.shown part = [word] ∧
                  columns < word.length + status.indentWidth) ∧
              (columns < status.indentWidth →
                parts.map status.shown = status.description.words.map fun word => [word])) := by
  obtain ⟨gap, hwritten⟩ := written_of_parse? hparse
  have hsolid := hwritten.description_solid
  refine ⟨by rw [wrap?_eq_none_iff, length_render], ?_⟩
  intro parts hwrap
  constructor
  · intro hempty
    have hlong := lt_length_render_of_wrap? hwrap
    rw [length_render, hempty, List.length_nil, Nat.add_zero] at hlong
    rw [wrap?_of_bare hempty hlong] at hwrap
    rw [render, hempty, List.append_nil]
    exact (Option.some.inj hwrap).symm
  · intro hdescription
    obtain ⟨first, rest, hwords⟩ := Text.exists_words_eq_cons hdescription hsolid
    have hshown := map_shown_of_words hsolid hwords hwrap
    refine ⟨?_, ?_, ?_⟩
    · rw [List.flatMap_def, hshown, (Layout.isCut_rowWords _ _ _ _ _).flatten_eq, hwords]
    · obtain ⟨opening, later, rfl, hopens, hcontinues⟩ := parts_of_wrap? hsolid hwrap
      intro part hpart hlong
      rcases List.mem_cons.mp hpart with rfl | hlater
      · exact hopens.shown_of_lt hdescription hlong
      · exact (hcontinues part hlater).shown_of_lt hlong
    · intro hnarrow
      rw [hshown, Nat.sub_eq_zero_of_le hnarrow.le, Layout.rowWords_zero, hwords]

/-- A word that is too long between two that fit, and a terminal on which the line fits but for
its wide gap. -/
theorem overflow_unavoidable_between :
    let line : Text := "12)  a longword b".toList
    let status : StatusLine := ⟨[], "12)".toList, "a longword b".toList⟩
    parse? line = some status ∧ status.wrap? 16 = none ∧
      status.wrap? 8 = some ["12) a".toList, "    longword".toList, "    b".toList] ∧
      ∃ word ∈ status.description.words, status.shown "    longword".toList = [word] ∧
        8 < word.length + status.indentWidth := by
  intro line status
  have hparse : parse? line = some status := by decide
  have hwrap : status.wrap? 8 =
      some ["12) a".toList, "    longword".toList, "    b".toList] := by decide
  have hnone : status.wrap? 16 = none := (overflow_unavoidable hparse 16).1.mpr (by decide)
  obtain ⟨_, hlong, _⟩ := ((overflow_unavoidable hparse 8).2 _ hwrap).2 (by decide)
  exact ⟨hparse, hnone, hwrap, hlong _ (by simp) (by decide)⟩

end Transcript.StatusLine
