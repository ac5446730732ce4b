import Transcript.Proofs.Layout.Widths

/-!
# Cuts set as rows

A cut of words is any division into groups that are not empty, in order. Its groups are set as
rows: the first has an opening of its own, the others open with the indentation. What wrapping
returns is one such cut set as rows, and it is measured against all of them.
-/

namespace Transcript

namespace Row

/-- The row is no longer than the limit, or it holds a single word. -/
def Fits (limit : Nat) (row : Row) : Prop :=
  row.render.length ≤ limit ∨ row.words.length = 1

instance (limit : Nat) (row : Row) : Decidable (row.Fits limit) :=
  inferInstanceAs (Decidable (_ ∨ _))

theorem fits_cons_iff {limit : Nat} {opening word : Text} {rest : List Text} :
    Fits limit ⟨opening, word :: rest⟩ ↔
      rest = [] ∨ opening.length + word.length + Text.trailing rest ≤ limit := by
  rw [Fits, length_render_cons, or_comm]
  simp

end Row

namespace Layout

/-- The words divided into groups that are not empty, in order. -/
structure IsCut (words : List Text) (groups : List (List Text)) : Prop where
  flatten_eq : groups.flatten = words
  nil_notMem : [] ∉ groups

instance (words : List Text) (groups : List (List Text)) : Decidable (IsCut words groups) :=
  decidable_of_iff (groups.flatten = words ∧ [] ∉ groups) ⟨fun ⟨hflatten, hne⟩ => ⟨hflatten, hne⟩,
    fun hcut => ⟨hcut.flatten_eq, hcut.nil_notMem⟩⟩

/-- The groups set as rows, the first behind `start` and the others behind the indentation. -/
def arrange (start : Text) (indent : Nat) : List (List Text) → List Row
  | [] => []
  | group :: later => ⟨start, group⟩ :: later.map (⟨Text.blanks indent, ·⟩)

variable {limit indent : Nat} {start : Text} {groups : List (List Text)}

theorem arrange_cons (start : Text) (indent : Nat) (group : List Text) (later : List (List Text)) :
    arrange start indent (group :: later) =
      ⟨start, group⟩ :: arrange (Text.blanks indent) indent later := by
  cases later <;> rfl

@[simp] theorem length_arrange : (arrange start indent groups).length = groups.length := by
  cases groups <;> simp [arrange]

theorem words_mem_of_mem_arrange {row : Row} (hrow : row ∈ arrange start indent groups) :
    row.words ∈ groups := by
  cases groups with
  | nil => simp [arrange] at hrow
  | cons group later =>
      rcases List.mem_cons.mp hrow with rfl | hlater
      · exact List.mem_cons_self
      · obtain ⟨other, hother, rfl⟩ := List.mem_map.mp hlater
        exact List.mem_cons_of_mem group hother

/-- A cut of at least one word begins with that word. -/
theorem IsCut.exists_eq_cons {first : Text} {rest : List Text}
    (hcut : IsCut (first :: rest) groups) :
    ∃ row later, groups = (first :: row) :: later ∧ row ++ later.flatten = rest ∧ [] ∉ later := by
  obtain ⟨hflatten, hne⟩ := hcut
  cases groups with
  | nil => simp at hflatten
  | cons group later =>
      cases group with
      | nil => simp at hne
      | cons word row =>
          obtain ⟨rfl, hrest⟩ := List.cons.inj hflatten
          exact ⟨row, later, rfl, hrest, fun hmem => hne (List.mem_cons_of_mem _ hmem)⟩

theorem isCut_cons {first : Text} {rest row : List Text} {later : List (List Text)}
    (hflatten : row ++ later.flatten = rest) (hne : [] ∉ later) :
    IsCut (first :: rest) ((first :: row) :: later) where
  flatten_eq := by rw [List.flatten_cons, List.cons_append, hflatten]
  nil_notMem := by simpa using hne

/-- The words on each row of a wrapped text. -/
def rowWords (limit indent : Nat) (lead first : Text) (rest : List Text) : List (List Text) :=
  let used := (opening limit indent lead first).length + first.length
  (first :: (cut limit indent used rest).1) :: (cut limit indent used rest).2

theorem isCut_rowWords (limit indent : Nat) (lead first : Text) (rest : List Text) :
    IsCut (first :: rest) (rowWords limit indent lead first rest) := by
  refine isCut_cons (cut_words limit indent _ rest) ?_
  intro hmem
  obtain ⟨word, more, hnil, _⟩ := cut_snd_fits limit indent _ rest [] hmem
  exact absurd hnil (List.cons_ne_nil word more).symm

/-- When no column is left, every word is on a row of its own. -/
theorem rowWords_zero (indent : Nat) (lead first : Text) (rest : List Text) :
    rowWords 0 indent lead first rest = (first :: rest).map fun word => [word] := by
  have hcut (used : Nat) : cut 0 indent used rest = ([], rest.map fun word => [word]) := by
    induction rest generalizing used with
    | nil => rfl
    | cons word more ih => rw [cut_cons_of_lt (by omega), ih, List.map_cons]
  rw [rowWords, hcut, List.map_cons]

/-- A text that has to be wrapped is a cut of its words set as rows. -/
theorem wrap_eq_arrange {text first : Text} {rest : List Text} (hlong : limit < text.length)
    (hwords : text.words = first :: rest) :
    wrap text indent limit = (arrange (opening limit indent text.leadingSpace first) indent
      (rowWords limit indent text.leadingSpace first rest)).map Row.render :=
  wrap_of_words hlong hwords

end Layout

end Transcript
