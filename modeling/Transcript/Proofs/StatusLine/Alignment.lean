import Transcript.Proofs.StatusLine.Parts

/-!
# Alignment under the description

The lines of a wrapped status line go on at the column where the description starts, all but one:
a first word that does not fit behind the marker is indented like a word that begins a later
line, although the marker already stands before it. So the first line is aligned with the others
exactly if the first word fits.
-/

namespace Transcript

namespace Text

/-- The text begins with `front`, and what comes next is not white space. -/
def SolidAfter (front text : Text) : Prop :=
  ∃ c rest, text = front ++ c :: rest ∧ isSpace c = false

theorem solidAfter_append_iff {front rest : Text} :
    SolidAfter front (front ++ rest) ↔ ∃ c ∈ rest.head?, isSpace c = false := by
  constructor
  · rintro ⟨c, tail, happend, hsolid⟩
    rw [List.append_cancel_left happend]
    exact ⟨c, rfl, hsolid⟩
  · rintro ⟨c, hhead, hsolid⟩
    obtain ⟨tail, rfl⟩ := List.head?_eq_some_iff.mp hhead
    exact ⟨c, tail, rfl, hsolid⟩

end Text

/-- Behind its opening a row goes on with its first word. -/
theorem Row.solidAfter_render {word : Text} (hword : Text.IsWord word) (opening : Text)
    (rest : List Text) : Text.SolidAfter opening (Row.render ⟨opening, word :: rest⟩) := by
  obtain ⟨tail, hjoin⟩ := Text.exists_joinWith_cons [' '] word rest
  obtain ⟨c, more, rfl⟩ := List.exists_cons_of_ne_nil hword.ne_nil
  rw [render, hjoin, Text.solidAfter_append_iff]
  exact ⟨c, rfl, hword.solid c List.mem_cons_self⟩

namespace StatusLine

variable {status : StatusLine} {columns : Nat}

/-- An indentation behind the marker keeps what follows from the column of the description. -/
theorem not_solidAfter_lead (status : StatusLine) (text : Text) :
    ¬ Text.SolidAfter status.lead (status.lead ++ (Text.blanks status.indentWidth ++ text)) := by
  rw [Text.solidAfter_append_iff, indentWidth, Text.blanks, List.replicate_succ]
  rintro ⟨c, hhead, hsolid⟩
  cases hhead
  contradiction

theorem solidAfter_lead_of_le {first : Text} (hfirst : Text.IsWord first)
    (hfits : status.indentWidth + first.length ≤ columns) (rest : List Text) :
    let start := Layout.opening (columns - status.indentWidth) status.indentWidth [] first
    Text.SolidAfter status.lead (status.lead ++ Row.render ⟨start, first :: rest⟩) := by
  have hroom : ([] : Text).length + first.length ≤ columns - status.indentWidth := by
    rw [List.length_nil]
    omega
  obtain ⟨c, tail, hrender, hsolid⟩ := Row.solidAfter_render hfirst [] rest
  dsimp only
  rw [Layout.opening_of_le hroom, hrender]
  exact ⟨c, tail, rfl, hsolid⟩

theorem Continues.solidAfter {part : Text} (hcontinues : Continues status columns part) :
    Text.SolidAfter (Text.blanks status.indentWidth) part := by
  cases hcontinues with
  | @packed word rest hwords _ =>
      have hword := Text.isWord_of_mem_words (hwords word List.mem_cons_self)
      exact Row.solidAfter_render hword _ rest
  | @lone word hword _ =>
      have halone := Row.solidAfter_render (Text.isWord_of_mem_words hword)
        (Text.blanks status.indentWidth) []
      rwa [Row.render_singleton] at halone

/-- A wrapped status line is aligned but for a first word that does not fit. Every later line goes
on right behind the indentation. The first line goes on right behind indent, marker and one space
exactly if the first word fits there; otherwise that word stands alone behind as much indentation
again. -/
theorem parts_aligned {line : Text} {status : StatusLine} (hparse : parse? line = some status)
    (hdescription : status.description ≠ []) {columns : Nat} {parts : List Text}
    (hwrap : status.wrap? columns = some parts) :
    ∃ first rest word later, parts = first :: rest ∧ status.description.words = word :: later ∧
      (Text.SolidAfter status.lead first ↔ status.indentWidth + word.length ≤ columns) ∧
      (columns < status.indentWidth + word.length →
        first = status.lead ++ (Text.blanks status.indentWidth ++ word)) ∧
      ∀ part ∈ rest, Text.SolidAfter (Text.blanks status.indentWidth) part := by
  obtain ⟨gap, hwritten⟩ := written_of_parse? hparse
  have hsolid := hwritten.description_solid
  obtain ⟨word, later, hwords⟩ := Text.exists_words_eq_cons hdescription hsolid
  have hword : Text.IsWord word := Text.isWord_of_mem_words (hwords ▸ List.mem_cons_self)
  have hpos := List.length_pos_iff.mpr hword.ne_nil
  have hlong := lt_length_render_of_wrap? hwrap
  obtain ⟨first, rest, rfl, _, hcontinues⟩ := parts_of_wrap? hsolid hwrap
  rw [wrap?_of_words hsolid hlong hwords] at hwrap
  have hfirst := (List.cons.inj (Option.some.inj hwrap)).1
  have hpushed : columns < status.indentWidth + word.length →
      first = status.lead ++ (Text.blanks status.indentWidth ++ word) := by
    intro hover
    have hlimit : columns - status.indentWidth < ([] : Text).length + word.length := by
      rw [List.length_nil]
      omega
    rw [← hfirst, Layout.render_first_row_of_lt hlimit (by omega)]
  refine ⟨first, rest, word, later, rfl, hwords, ⟨?_, ?_⟩, hpushed, ?_⟩
  · intro haligned
    by_contra hover
    rw [hpushed (Nat.lt_of_not_le hover)] at haligned
    exact not_solidAfter_lead status word haligned
  · intro hfits
    rw [← hfirst]
    exact solidAfter_lead_of_le hword hfits _
  · exact fun part hpart => (hcontinues part hpart).solidAfter

/-- An enumerated failure whose words all fit behind its marker. -/
theorem parts_aligned_enumerated :
    let line : Text := "  3) got nil not a list".toList
    let status : StatusLine := ⟨"  ".toList, "3)".toList, "got nil not a list".toList⟩
    parse? line = some status ∧ status.description ≠ [] ∧
      status.wrap? 15 = some ["  3) got nil".toList, "     not a".toList, "     list".toList] ∧
      Text.SolidAfter status.lead "  3) got nil".toList ∧
      Text.SolidAfter (Text.blanks 5) "     list".toList := by
  intro line status
  have hparse : parse? line = some status := by decide
  have hdescription : status.description ≠ [] := by decide
  have hwrap : status.wrap? 15 =
      some ["  3) got nil".toList, "     not a".toList, "     list".toList] := by decide
  obtain ⟨first, rest, word, later, hparts, hwords, haligned, _, hrest⟩ :=
    parts_aligned hparse hdescription hwrap
  obtain ⟨rfl, rfl⟩ := List.cons.inj hparts
  have hword : status.description.words =
      "got".toList :: ["nil", "not", "a", "list"].map String.toList := by decide
  obtain ⟨rfl, _⟩ := List.cons.inj (hwords.symm.trans hword)
  exact ⟨hparse, hdescription, hwrap, haligned.mpr (by decide), hrest _ (by simp)⟩

/-- The first word does not fit behind the marker, and is pushed away from it. -/
theorem parts_misaligned :
    ¬ ∀ status, parse? "* abc d".toList = some status → status.description ≠ [] →
      ∀ first rest, status.wrap? 4 = some (first :: rest) → Text.SolidAfter status.lead first := by
  intro haligned
  have hpushed := haligned ⟨[], ['*'], "abc d".toList⟩ (by decide) (by decide) "*   abc".toList
    ["  d".toList] (by decide)
  exact not_solidAfter_lead ⟨[], ['*'], "abc d".toList⟩ "abc".toList hpushed

end StatusLine

end Transcript
