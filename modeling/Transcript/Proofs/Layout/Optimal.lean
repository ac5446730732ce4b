import Transcript.Proofs.Layout.Arrangement

/-!
# No packing needs fewer rows

A cut fills each row as far as it goes. Compared word by word with any other packing of the
same words, a cut is never behind: either it has begun as many rows and its row is no wider,
or it has a row in hand. So it needs no more rows, and a wider limit never makes it need more.
A wrapped text therefore has the fewest lines that its words can be set in.
-/

namespace Transcript.Layout

variable {limit indent used : Nat}

/-- Words that go on a row of which `used` columns are taken, and later rows, with no row
wider than the limit unless it is a single word. -/
structure Packs (limit indent used : Nat) (row : List Text) (later : List (List Text)) : Prop where
  row_fits : row = [] ∨ used + Text.trailing row ≤ limit
  later_fits : ∀ words ∈ later, ∃ word rest, words = word :: rest ∧
    (rest = [] ∨ indent + word.length + Text.trailing rest ≤ limit)

theorem packs_cut (limit indent used : Nat) (words : List Text) :
    Packs limit indent used (cut limit indent used words).1 (cut limit indent used words).2 where
  row_fits := cut_fst_fits limit indent used words
  later_fits := by
    intro row hrow
    obtain ⟨word, rest, rfl, hfits⟩ := cut_snd_fits limit indent used words row hrow
    rw [Row.length_render_cons, Text.length_blanks] at hfits
    exact ⟨word, rest, rfl, hfits⟩

namespace Packs

variable {row : List Text} {later : List (List Text)}

theorem widen {narrow wide : Nat} (hpacks : Packs narrow indent used row later)
    (hle : narrow ≤ wide) : Packs wide indent used row later where
  row_fits := hpacks.row_fits.imp_right fun hfits => hfits.trans hle
  later_fits := by
    intro words hwords
    obtain ⟨word, rest, heq, hfits⟩ := hpacks.later_fits words hwords
    exact ⟨word, rest, heq, hfits.imp_right fun hrest => hrest.trans hle⟩

/-- A word that goes on the row fits there. -/
theorem of_cons {word : Text} (hpacks : Packs limit indent used (word :: row) later) :
    used + 1 + word.length ≤ limit ∧ Packs limit indent (used + 1 + word.length) row later := by
  have hfits := hpacks.row_fits.resolve_left (List.cons_ne_nil word row)
  rw [Text.trailing] at hfits
  exact ⟨by omega, .inr (by omega), hpacks.later_fits⟩

/-- When the row is left, the next one takes its place. -/
theorem next {words : List Text} (hpacks : Packs limit indent used row (words :: later)) :
    ∃ word rest, words = word :: rest ∧ Packs limit indent (indent + word.length) rest later := by
  obtain ⟨word, rest, rfl, hfits⟩ := hpacks.later_fits words List.mem_cons_self
  exact ⟨word, rest, rfl, hfits, fun other hmem =>
    hpacks.later_fits other (List.mem_cons_of_mem _ hmem)⟩

/-- A packing behind the leading white space is one behind the opening of the first row, where
that white space has been given up for a first word that does not fit after it. -/
theorem of_lead {lead first : Text}
    (hpacks : Packs limit indent (lead.length + first.length) row later) :
    Packs limit indent ((opening limit indent lead first).length + first.length) row later := by
  rcases Nat.lt_or_ge limit (lead.length + first.length) with hlong | hfits
  · have hrow : row = [] := hpacks.row_fits.resolve_right (by omega)
    exact ⟨.inl hrow, hpacks.later_fits⟩
  · rw [opening_of_le hfits]
    exact hpacks

end Packs

/-- Groups are packed if they fit when they are set as rows. -/
theorem packs_of_fits {start first : Text} {row : List Text} {later : List (List Text)}
    (hne : [] ∉ later)
    (hfits : ∀ other ∈ arrange start indent ((first :: row) :: later), other.Fits limit) :
    Packs limit indent (start.length + first.length) row later where
  row_fits := Row.fits_cons_iff.mp (hfits _ List.mem_cons_self)
  later_fits := by
    intro words hwords
    obtain ⟨word, rest, rfl⟩ :=
      List.exists_cons_of_ne_nil fun hnil => hne (hnil ▸ hwords)
    have hrow := hfits _ (List.mem_cons_of_mem _ (List.mem_map_of_mem hwords))
    rw [Row.fits_cons_iff, Text.length_blanks] at hrow
    exact ⟨word, rest, rfl, hrow⟩

/-! ## Counting rows -/

theorem cut_snd_of_le {word : Text} (hfits : used + 1 + word.length ≤ limit) (rest : List Text) :
    (cut limit indent used (word :: rest)).2 =
      (cut limit indent (used + 1 + word.length) rest).2 := by
  rw [cut_cons_of_le hfits]

theorem length_cut_snd_of_lt {word : Text} (hlong : limit < used + 1 + word.length)
    (rest : List Text) :
    (cut limit indent used (word :: rest)).2.length =
      (cut limit indent (indent + word.length) rest).2.length + 1 := by
  rw [cut_cons_of_lt hlong, List.length_cons]

/-- A cut whose row is no wider than that of a packing needs no more rows. Whatever the width
of its row, it needs one more at most. -/
theorem length_cut_le {behind : Nat} {words row : List Text} {later : List (List Text)}
    (hpacks : Packs limit indent behind row later) (hwords : row ++ later.flatten = words) :
    (used ≤ behind → (cut limit indent used words).2.length ≤ later.length) ∧
      (indent ≤ behind → (cut limit indent used words).2.length ≤ later.length + 1) := by
  -- A cut that breaks a row in hand falls back to the first part, a packing that breaks before
  -- the cut leaves it with the second, so both go through the induction together.
  induction words generalizing used behind row later with
  | nil => exact ⟨fun _ => Nat.zero_le _, fun _ => Nat.zero_le _⟩
  | cons word rest ih =>
      cases row with
      | cons first more =>
          obtain ⟨rfl, hrest⟩ := List.cons.inj hwords
          obtain ⟨hfirst, hmore⟩ := hpacks.of_cons
          constructor
          · intro hle
            rw [cut_snd_of_le (by omega)]
            exact (ih hmore hrest).1 (by omega)
          · intro hindent
            rcases Nat.lt_or_ge limit (used + 1 + first.length) with hlong | hfits
            · have hrow : (cut limit indent (indent + first.length) rest).2.length ≤ later.length :=
                (ih hmore hrest).1 (by omega)
              rw [length_cut_snd_of_lt hlong]
              omega
            · rw [cut_snd_of_le hfits]
              exact (ih hmore hrest).2 (by omega)
      | nil =>
          cases later with
          | nil => simp at hwords
          | cons others later =>
              obtain ⟨first, more, rfl, hnext⟩ := hpacks.next
              obtain ⟨rfl, hrest⟩ := List.cons.inj hwords
              rw [List.length_cons]
              rcases Nat.lt_or_ge limit (used + 1 + first.length) with hlong | hfits
              · have hrow : (cut limit indent (indent + first.length) rest).2.length ≤ later.length :=
                  (ih hnext hrest).1 (Nat.le_refl _)
                rw [length_cut_snd_of_lt hlong]
                omega
              · have hhand : (cut limit indent (used + 1 + first.length) rest).2.length ≤
                    later.length + 1 := (ih hnext hrest).2 (Nat.le_add_right _ _)
                rw [cut_snd_of_le hfits]
                omega

/-- A wider limit, and a row of which less is taken, never need more rows. -/
theorem length_cut_antitone {narrow wide behind : Nat} (hle : narrow ≤ wide)
    (hused : used ≤ behind) (words : List Text) :
    (cut wide indent used words).2.length ≤ (cut narrow indent behind words).2.length :=
  (length_cut_le ((packs_cut narrow indent behind words).widen hle)
    (cut_words narrow indent behind words)).1 hused

/-- A wider limit never opens the first row wider when the text begins with a word. -/
theorem length_opening_antitone {narrow wide : Nat} (hle : narrow ≤ wide) (indent : Nat)
    (first : Text) :
    (opening wide indent [] first).length ≤ (opening narrow indent [] first).length := by
  rcases Nat.lt_or_ge wide (([] : Text).length + first.length) with hlong | hfits
  · rw [opening_of_lt hlong, opening_of_lt (Nat.lt_of_le_of_lt hle hlong)]
  · rw [opening_of_le hfits]
    exact Nat.zero_le _

/-! ## Wrapped texts -/

/-- A text that has to be wrapped is wrapped to the fewest lines: no cut of its words has fewer
groups, if each group fits or is a single word, the first behind the leading white space of the
text and the others behind the indentation. -/
theorem length_wrap_le {text : Text} {indent limit : Nat} (hlong : limit < text.length)
    (hwords : text.words ≠ []) {groups : List (List Text)} (hcut : IsCut text.words groups)
    (hfits : ∀ row ∈ arrange text.leadingSpace indent groups, row.Fits limit) :
    (wrap text indent limit).length ≤ groups.length := by
  obtain ⟨first, rest, htext⟩ := List.exists_cons_of_ne_nil hwords
  rw [htext] at hcut
  obtain ⟨row, later, rfl, hrest, hne⟩ := hcut.exists_eq_cons
  have hpacks := (packs_of_fits hne hfits).of_lead
  rw [wrap_eq_arrange hlong htext, List.length_map, length_arrange, rowWords, List.length_cons,
    List.length_cons]
  exact Nat.succ_le_succ ((length_cut_le hpacks hrest).1 (Nat.le_refl _))

/-- The first word does not fit after the leading white space, and leaves room for another behind
the indentation. -/
theorem length_wrap_le_outdented :
    let text : Text := "     abcdef g h".toList
    let groups := [["abcdef".toList], ["g".toList, "h".toList]]
    9 < text.length ∧ text.words ≠ [] ∧ IsCut text.words groups ∧
      (∀ row ∈ arrange text.leadingSpace 1 groups, row.Fits 9) ∧
      wrap text 1 9 = [" abcdef g".toList, " h".toList] ∧
      (wrap text 1 9).length ≤ groups.length := by
  intro text groups
  have hlong : 9 < text.length := by decide
  have hwords : text.words ≠ [] := by decide
  have hcut : IsCut text.words groups := by decide
  have hfits : ∀ row ∈ arrange text.leadingSpace 1 groups, row.Fits 9 := by decide
  exact ⟨hlong, hwords, hcut, hfits, by decide, length_wrap_le hlong hwords hcut hfits⟩

end Transcript.Layout
