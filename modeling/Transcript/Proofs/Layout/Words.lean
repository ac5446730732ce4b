import Mathlib.Data.List.Basic
import Transcript.Layout
import Transcript.Proofs.Text.Words

/-!
# Wrapping keeps the words

Cutting puts every word on one row and keeps their order, whatever the widths. A row
opens with white space, so as a line it holds its own words and no others. A wrapped text
therefore has the words it had.
-/

namespace Transcript

namespace Layout

/-- The rows of a cut hold the words that were cut, in order. -/
theorem cut_words (limit indent used : Nat) (words : List Text) :
    (cut limit indent used words).1 ++ (cut limit indent used words).2.flatten = words := by
  -- A cut starts over with another width used, so the induction is for every width.
  induction words generalizing used with
  | nil => rfl
  | cons word rest ih =>
      unfold cut
      split
      · rw [List.cons_append, ih]
      · rw [List.nil_append, List.flatten_cons, List.cons_append, ih]

theorem isBlank_opening (limit indent : Nat) {lead : Text} (hlead : Text.IsBlank lead)
    (first : Text) : Text.IsBlank (opening limit indent lead first) := by
  unfold opening
  split
  · exact hlead
  · exact Text.isBlank_blanks indent

theorem isBlank_opening_of_mem_rows {limit indent : Nat} {lead first : Text} {rest : List Text}
    (hlead : Text.IsBlank lead) {row : Row} (hrow : row ∈ rows limit indent lead first rest) :
    Text.IsBlank row.opening := by
  rcases List.mem_cons.mp hrow with rfl | hlater
  · exact isBlank_opening limit indent hlead first
  · obtain ⟨words, _, rfl⟩ := List.mem_map.mp hlater
    exact Text.isBlank_blanks indent

/-- The rows of a text hold its words, in order. -/
theorem flatMap_words_rows (limit indent : Nat) (lead first : Text) (rest : List Text) :
    (rows limit indent lead first rest).flatMap Row.words = first :: rest := by
  have hcut := cut_words limit indent ((opening limit indent lead first).length + first.length) rest
  simp only [rows, List.flatMap_cons, List.flatMap_map, List.flatMap_id', List.cons_append]
  rw [hcut]

end Layout

/-- A row that opens with white space is a line of the row's own words. -/
theorem Row.words_render {row : Row} (hopening : Text.IsBlank row.opening)
    (hwords : ∀ word ∈ row.words, Text.IsWord word) : Text.words row.render = row.words := by
  unfold render
  rw [Text.words_append_of_isBlank hopening, Text.words_joinWith hwords]

namespace Layout

/-- Rows that open with white space and hold words are lines of those words. -/
theorem flatMap_words_render {rows : List Row}
    (hopening : ∀ row ∈ rows, Text.IsBlank row.opening)
    (hwords : ∀ word ∈ rows.flatMap Row.words, Text.IsWord word) :
    (rows.map Row.render).flatMap Text.words = rows.flatMap Row.words := by
  rw [List.flatMap_map]
  apply List.flatMap_congr
  intro row hrow
  apply Row.words_render (hopening row hrow)
  intro word hword
  exact hwords word (List.mem_flatMap.mpr ⟨row, hrow, hword⟩)

/-- Wrapping neither loses nor adds, divides nor moves a word. -/
theorem flatMap_words_wrap (text : Text) (indent limit : Nat) :
    (wrap text indent limit).flatMap Text.words = text.words := by
  unfold wrap
  split
  · exact List.flatMap_singleton _ _
  · split
    next => exact List.flatMap_singleton _ _
    next first rest htext =>
      rw [flatMap_words_render, flatMap_words_rows, htext]
      · intro row hrow
        exact isBlank_opening_of_mem_rows (Text.isBlank_leadingSpace text) hrow
      · intro word hword
        rw [flatMap_words_rows, ← htext] at hword
        exact Text.isWord_of_mem_words hword

end Layout

end Transcript
