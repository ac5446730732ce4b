import Transcript.Text.Basic

/-!
# Pieces between separators

A separator between two texts is one at which they come apart, and a text without the separator
is one piece.
-/

namespace Transcript.Text

variable {separator : Char}

theorem pushPiece_ne_nil (c : Char) (pieces : List Text) : pushPiece separator c pieces ≠ [] := by
  unfold pushPiece
  split
  · exact List.cons_ne_nil _ _
  · split <;> exact List.cons_ne_nil _ _

theorem pushPiece_append (c : Char) {pieces : List Text} (hne : pieces ≠ []) (more : List Text) :
    pushPiece separator c (pieces ++ more) = pushPiece separator c pieces ++ more := by
  obtain ⟨piece, rest, rfl⟩ := List.exists_cons_of_ne_nil hne
  unfold pushPiece
  split <;> rfl

theorem piecesAt_cons (c : Char) (rest : Text) :
    piecesAt separator (c :: rest) = pushPiece separator c (piecesAt separator rest) := rfl

theorem pushPiece_separator (pieces : List Text) :
    pushPiece separator separator pieces = [] :: pieces := if_pos rfl

theorem piecesAt_ne_nil (text : Text) : piecesAt separator text ≠ [] := by
  cases text with
  | nil => exact List.cons_ne_nil _ _
  | cons c rest => exact pushPiece_ne_nil c _

theorem piecesAt_append (front rest : Text) :
    piecesAt separator (front ++ separator :: rest) =
      piecesAt separator front ++ piecesAt separator rest := by
  induction front with
  | nil => exact pushPiece_separator (piecesAt separator rest)
  | cons c more ih =>
      rw [List.cons_append, piecesAt_cons, ih, pushPiece_append c (piecesAt_ne_nil more),
        piecesAt_cons]

theorem piecesAt_of_not_mem {text : Text} (hfree : separator ∉ text) :
    piecesAt separator text = [text] := by
  induction text with
  | nil => rfl
  | cons c rest ih =>
      rw [List.mem_cons, not_or] at hfree
      rw [piecesAt_cons, ih hfree.2, pushPiece, if_neg (Ne.symm hfree.1)]

end Transcript.Text
