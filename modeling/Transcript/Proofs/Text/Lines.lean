import Transcript.Proofs.Text.Pieces
import Transcript.Proofs.Text.Words

/-!
# Lines

Joining the lines of a text gives the text back, with its last line ended by a line feed
if it was not. A line feed is white space, so no word reaches over the end of a line.
-/

namespace Transcript.Text

/-! ## Joining -/

theorem joinLines_cons (line : Text) (lines : List Text) :
    joinLines (line :: lines) = line ++ '\n' :: joinLines lines := by
  simp [joinLines, endLine]

/-- The text with its last line ended. -/
def terminated (text : Text) : Text :=
  if text = [] ∨ text.getLast? = some '\n' then text else text ++ ['\n']

theorem terminated_cons_cons (c d : Char) (rest : Text) :
    terminated (c :: d :: rest) = c :: terminated (d :: rest) := by
  unfold terminated
  rw [List.getLast?_cons_cons]
  split <;> split <;> simp_all

theorem splitLines_cons (c : Char) (rest : Text) :
    splitLines (c :: rest) = pushPiece '\n' c (splitLines rest) := rfl

theorem splitLines_ne_nil (c : Char) (rest : Text) : splitLines (c :: rest) ≠ [] := by
  rw [splitLines_cons]
  exact pushPiece_ne_nil c _

/-- A character in front of the lines of a text that has some is in front of the text. -/
theorem joinLines_pushPiece (c : Char) {pieces : List Text} (hne : pieces ≠ []) :
    joinLines (pushPiece '\n' c pieces) = c :: joinLines pieces := by
  obtain ⟨piece, rest, rfl⟩ := List.exists_cons_of_ne_nil hne
  unfold pushPiece
  split
  next hfeed =>
    subst hfeed
    exact joinLines_cons [] (piece :: rest)
  next =>
    rw [joinLines_cons, joinLines_cons, List.cons_append]

/-- Splitting a text and joining its lines ends the last line and changes nothing else. -/
theorem joinLines_splitLines (text : Text) : joinLines (splitLines text) = terminated text := by
  induction text with
  | nil => rfl
  | cons c rest ih =>
      -- A last character opens the only line, any other goes in front of lines there are.
      cases rest with
      | nil =>
          by_cases hfeed : c = '\n'
          · subst hfeed
            rfl
          · simp [splitLines, pushPiece, joinLines, endLine, terminated, hfeed]
      | cons d more =>
          rw [splitLines_cons, joinLines_pushPiece c (splitLines_ne_nil d more), ih,
            terminated_cons_cons]

/-! ## Splitting -/

theorem splitLines_append {line : Text} (hfree : '\n' ∉ line) (rest : Text) :
    splitLines (line ++ '\n' :: rest) = line :: splitLines rest := by
  induction line with
  | nil => rfl
  | cons c more ih =>
      rw [List.mem_cons, not_or] at hfree
      rw [List.cons_append, splitLines_cons, ih hfree.2, pushPiece, if_neg (Ne.symm hfree.1)]

/-- Lines that hold no line feed are split again as they were joined. -/
theorem splitLines_joinLines {lines : List Text} (hfree : ∀ line ∈ lines, '\n' ∉ line) :
    splitLines (joinLines lines) = lines := by
  induction lines with
  | nil => rfl
  | cons line rest ih =>
      rw [joinLines_cons, splitLines_append (hfree line List.mem_cons_self),
        ih fun other hmem => hfree other (List.mem_cons_of_mem line hmem)]

theorem lineFeed_not_mem_of_mem_splitLines {text line : Text} (hline : line ∈ splitLines text) :
    '\n' ∉ line := by
  induction text generalizing line with
  | nil => exact absurd hline List.not_mem_nil
  | cons c rest ih =>
      rw [splitLines_cons] at hline
      unfold pushPiece at hline
      split at hline
      next =>
        rcases List.mem_cons.mp hline with rfl | hrest
        · exact List.not_mem_nil
        · exact ih hrest
      next hfeed =>
        split at hline
        next =>
          rw [List.mem_singleton.mp hline, List.mem_singleton]
          exact Ne.symm hfeed
        next piece pieces hpieces =>
          rw [hpieces] at ih
          rcases List.mem_cons.mp hline with rfl | hlater
          · rw [List.mem_cons, not_or]
            exact ⟨Ne.symm hfeed, ih List.mem_cons_self⟩
          · exact ih (List.mem_cons_of_mem piece hlater)

/-! ## Words -/

theorem words_terminated (text : Text) : words (terminated text) = words text := by
  unfold terminated
  split
  · rfl
  · rw [words_append_space isSpace_lineFeed, words_nil, List.append_nil]

/-- The words of joined lines are the words of the lines. -/
theorem words_joinLines (lines : List Text) : words (joinLines lines) = lines.flatMap words := by
  induction lines with
  | nil => rfl
  | cons line rest ih =>
      rw [joinLines_cons, words_append_space isSpace_lineFeed, ih, List.flatMap_cons]

/-- The words of a text are the words of its lines. -/
theorem flatMap_words_splitLines (text : Text) : (splitLines text).flatMap words = words text := by
  rw [← words_joinLines, joinLines_splitLines, words_terminated]

end Transcript.Text
