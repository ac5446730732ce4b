import Transcript.Proofs.Layout.Words

/-!
# The width of wrapped rows

A cut adds a word to a row only while the row fits, so every row either fits or is a single
word. The width a cut keeps count of is the length of the row as it is rendered.
-/

namespace Transcript

namespace Text

/-- The columns that words take behind another word, each with the space before it. -/
def trailing : List Text → Nat
  | [] => 0
  | word :: rest => word.length + 1 + trailing rest

theorem trailing_append (words more : List Text) :
    trailing (words ++ more) = trailing words + trailing more := by
  induction words with
  | nil => rw [List.nil_append, trailing, Nat.zero_add]
  | cons word rest ih =>
      rw [List.cons_append, trailing, trailing, ih]
      omega

theorem length_joinWith_cons (word : Text) (rest : List Text) :
    (joinWith [' '] (word :: rest)).length = word.length + trailing rest := by
  induction rest generalizing word with
  | nil => simp [joinWith, trailing]
  | cons next more ih =>
      rw [joinWith_cons_cons, List.length_append, List.length_append, ih, List.length_singleton,
        trailing]
      omega

theorem length_blanks (width : Nat) : (blanks width).length = width := List.length_replicate

end Text

theorem Row.length_render_cons (opening word : Text) (rest : List Text) :
    (Row.render ⟨opening, word :: rest⟩).length =
      opening.length + word.length + Text.trailing rest := by
  rw [render, List.length_append, Text.length_joinWith_cons, Nat.add_assoc]

/-- Words put behind the words of a row each take a space and their own length. -/
theorem Row.length_render_append {opening : Text} {words : List Text} (hne : words ≠ [])
    (more : List Text) :
    (Row.render ⟨opening, words ++ more⟩).length =
      (Row.render ⟨opening, words⟩).length + Text.trailing more := by
  obtain ⟨first, rest, rfl⟩ := List.exists_cons_of_ne_nil hne
  rw [List.cons_append, length_render_cons, length_render_cons, Text.trailing_append]
  omega

theorem Row.render_singleton (opening word : Text) :
    Row.render ⟨opening, [word]⟩ = opening ++ word := by
  simp [render, Text.joinWith]

theorem Row.length_render_singleton (opening word : Text) :
    (Row.render ⟨opening, [word]⟩).length = opening.length + word.length := by
  rw [render_singleton, List.length_append]

namespace Layout

variable {limit indent used : Nat} {words : List Text}

theorem cut_cons_of_le {word : Text} (hroom : used + 1 + word.length ≤ limit) (rest : List Text) :
    cut limit indent used (word :: rest) =
      (word :: (cut limit indent (used + 1 + word.length) rest).1,
        (cut limit indent (used + 1 + word.length) rest).2) := by
  rw [cut, if_pos hroom]

theorem cut_cons_of_lt {word : Text} (hlong : limit < used + 1 + word.length) (rest : List Text) :
    cut limit indent used (word :: rest) =
      ([], (word :: (cut limit indent (indent + word.length) rest).1) ::
        (cut limit indent (indent + word.length) rest).2) := by
  rw [cut, if_neg (Nat.not_le_of_lt hlong)]

theorem mem_of_mem_cut_fst {word : Text} (hmem : word ∈ (cut limit indent used words).1) :
    word ∈ words := by
  rw [← cut_words limit indent used words]
  exact List.mem_append_left _ hmem

theorem mem_of_mem_cut_snd {row : List Text} (hrow : row ∈ (cut limit indent used words).2)
    {word : Text} (hmem : word ∈ row) : word ∈ words := by
  rw [← cut_words limit indent used words]
  exact List.mem_append_right _ (List.mem_flatten.mpr ⟨row, hrow, hmem⟩)

/-- Words go on the row begun only as long as it fits. -/
theorem cut_fst_fits (limit indent used : Nat) (words : List Text) :
    (cut limit indent used words).1 = [] ∨
      used + Text.trailing (cut limit indent used words).1 ≤ limit := by
  -- The width used grows along the row, so the induction is for every width.
  induction words generalizing used with
  | nil => exact .inl rfl
  | cons word rest ih =>
      unfold cut
      split
      next hfits =>
        right
        rcases ih (used + 1 + word.length) with hnil | hrest
        · simp only [hnil, Text.trailing]
          omega
        · simp only [Text.trailing]
          omega
      next => exact .inl rfl

theorem cut_fst_of_lt (hlong : limit < used) : (cut limit indent used words).1 = [] := by
  rcases cut_fst_fits limit indent used words with hnil | hfits
  · exact hnil
  · omega

/-- Every later row begins with a word, and fits or has no other. -/
theorem cut_snd_fits (limit indent used : Nat) (words : List Text) :
    ∀ row ∈ (cut limit indent used words).2, ∃ word rest, row = word :: rest ∧
      (rest = [] ∨ (Row.render ⟨Text.blanks indent, word :: rest⟩).length ≤ limit) := by
  induction words generalizing used with
  | nil => exact fun _ hmem => absurd hmem List.not_mem_nil
  | cons word rest ih =>
      unfold cut
      split
      next => exact ih _
      next =>
        intro row hrow
        rcases List.mem_cons.mp hrow with rfl | hlater
        · refine ⟨word, _, rfl, (cut_fst_fits limit indent (indent + word.length) rest).imp_right ?_⟩
          intro hfits
          rw [Row.length_render_cons, Text.length_blanks]
          exact hfits
        · exact ih _ row hlater

theorem opening_of_le {lead first : Text} (hfits : lead.length + first.length ≤ limit) :
    opening limit indent lead first = lead :=
  if_pos hfits

theorem opening_of_lt {lead first : Text} (hlong : limit < lead.length + first.length) :
    opening limit indent lead first = Text.blanks indent :=
  if_neg (Nat.not_le_of_lt hlong)

/-- A first word that fits neither after the leading white space nor on a row of its own stands
alone behind the indentation. -/
theorem render_first_row_of_lt {lead first : Text} (hlong : limit < lead.length + first.length)
    (halone : limit < indent + first.length) (rest : List Text) :
    let start := opening limit indent lead first
    Row.render ⟨start, first :: (cut limit indent (start.length + first.length) rest).1⟩ =
      Text.blanks indent ++ first := by
  dsimp only
  rw [opening_of_lt hlong, Text.length_blanks, cut_fst_of_lt halone, Row.render_singleton]

theorem length_first_row_le {opening first : Text} (indent : Nat) (rest : List Text)
    (hfits : opening.length + first.length ≤ limit) :
    (Row.render ⟨opening,
      first :: (cut limit indent (opening.length + first.length) rest).1⟩).length ≤ limit := by
  rw [Row.length_render_cons]
  rcases cut_fst_fits limit indent (opening.length + first.length) rest with hnil | hrest
  · rw [hnil, Text.trailing]
    exact hfits
  · exact hrest

theorem wrap_of_words {text first : Text} {rest : List Text} (hlong : limit < text.length)
    (hwords : text.words = first :: rest) :
    wrap text indent limit = (rows limit indent text.leadingSpace first rest).map Row.render := by
  rw [wrap, if_neg (Nat.not_le_of_lt hlong), hwords]

end Layout

end Transcript
