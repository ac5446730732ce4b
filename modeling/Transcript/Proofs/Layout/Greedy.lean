import Mathlib.Data.List.Chain
import Transcript.Proofs.Layout.Optimal

/-!
# The layout of a wrapped text

Wrapping leaves a row only for a word that has no room on it. The width a cut keeps count of is
the length of the row as it is rendered, so this can be said of the rendered rows: each fits or is
a single word, and none has room for the word after it. No other cut of the words is set so.
-/

namespace Transcript

namespace Row

/-- The first word of the next row, behind a space, would make the row longer than the limit. -/
def LacksRoom (limit : Nat) (row next : Row) : Prop :=
  ∀ word ∈ next.words.head?, limit < (row.render ++ ' ' :: word).length

instance (limit : Nat) (row next : Row) : Decidable (row.LacksRoom limit next) :=
  inferInstanceAs
    (Decidable (∀ word ∈ next.words.head?, limit < (row.render ++ ' ' :: word).length))

theorem lacksRoom_cons_iff {limit : Nat} {row : Row} {opening word : Text} {rest : List Text} :
    row.LacksRoom limit ⟨opening, word :: rest⟩ ↔ limit < row.render.length + 1 + word.length := by
  simp [LacksRoom, Nat.add_assoc, Nat.add_comm 1]

end Row

namespace Layout

/-- Rows that fit or are single words, none with room for the first word of the next. -/
structure Greedy (limit : Nat) (rows : List Row) : Prop where
  fits : ∀ row ∈ rows, row.Fits limit
  full : rows.IsChain (Row.LacksRoom limit)

instance (limit : Nat) (rows : List Row) : Decidable (Greedy limit rows) :=
  decidable_of_iff ((∀ row ∈ rows, row.Fits limit) ∧ rows.IsChain (Row.LacksRoom limit))
    ⟨fun ⟨hfits, hfull⟩ => ⟨hfits, hfull⟩, fun hgreedy => ⟨hgreedy.fits, hgreedy.full⟩⟩

variable {limit indent used : Nat} {start : Text} {begun words : List Text}

theorem greedy_singleton {row : Row} (hfits : row.Fits limit) : Greedy limit [row] where
  fits := by simpa using hfits
  full := .singleton row

theorem greedy_cons_cons_iff {row next : Row} {rows : List Row} :
    Greedy limit (row :: next :: rows) ↔
      row.Fits limit ∧ row.LacksRoom limit next ∧ Greedy limit (next :: rows) := by
  constructor
  · rintro ⟨hfits, hfull⟩
    obtain ⟨hroom, hnext⟩ := List.isChain_cons_cons.mp hfull
    exact ⟨hfits row List.mem_cons_self, hroom,
      fun other hmem => hfits other (List.mem_cons_of_mem row hmem), hnext⟩
  · rintro ⟨hfits, hroom, hnext⟩
    exact ⟨List.forall_mem_cons.mpr ⟨hfits, hnext.fits⟩,
      List.isChain_cons_cons.mpr ⟨hroom, hnext.full⟩⟩

theorem greedy_arrange_cons_cons_iff {word : Text} {group rest : List Text}
    {later : List (List Text)} :
    Greedy limit (arrange start indent (group :: (word :: rest) :: later)) ↔
      Row.Fits limit ⟨start, group⟩ ∧
        limit < (Row.render ⟨start, group⟩).length + 1 + word.length ∧
        Greedy limit (arrange (Text.blanks indent) indent ((word :: rest) :: later)) := by
  rw [arrange_cons, arrange_cons, greedy_cons_cons_iff, Row.lacksRoom_cons_iff]

theorem length_render_of_next (hbegun : begun ≠ [])
    (hused : (Row.render ⟨start, begun⟩).length = used) (next : Text) :
    (Row.render ⟨start, begun ++ [next]⟩).length = used + 1 + next.length := by
  rw [Row.length_render_append hbegun, hused, Text.trailing, Text.trailing]
  omega

/-- A cut is greedy behind the words of the row begun, if the width it is given is theirs. -/
theorem greedy_cut (hbegun : begun ≠ []) (hused : (Row.render ⟨start, begun⟩).length = used)
    (hfits : Row.Fits limit ⟨start, begun⟩) (words : List Text) :
    Greedy limit (arrange start indent
      ((begun ++ (cut limit indent used words).1) :: (cut limit indent used words).2)) := by
  -- Words move from the front of the list to the row begun, or begin a row of their own.
  induction words generalizing start begun used with
  | nil =>
      rw [cut, List.append_nil]
      exact greedy_singleton hfits
  | cons word rest ih =>
      by_cases hroom : used + 1 + word.length ≤ limit
      · have hlength := length_render_of_next hbegun hused word
        have hrow := ih (by simp) hlength (.inl (hlength ▸ hroom))
        rw [cut_cons_of_le hroom]
        rwa [List.append_assoc, List.singleton_append] at hrow
      · have hlong : limit < used + 1 + word.length := Nat.lt_of_not_le hroom
        rw [cut_cons_of_lt hlong, List.append_nil, greedy_arrange_cons_cons_iff, hused]
        refine ⟨hfits, hlong, ih (List.cons_ne_nil word []) ?_ (.inr rfl)⟩
        rw [Row.length_render_singleton, Text.length_blanks]

/-- A row that fits had room for each word behind the first. -/
theorem room_of_fits {next : Text} {more : List Text} (hbegun : begun ≠ [])
    (hused : (Row.render ⟨start, begun⟩).length = used)
    (hfits : Row.Fits limit ⟨start, begun ++ next :: more⟩) : used + 1 + next.length ≤ limit := by
  rcases hfits with hrow | hsingle
  · rw [Row.length_render_append hbegun, hused, Text.trailing] at hrow
    omega
  · have hpos := List.length_pos_iff.mpr hbegun
    simp at hsingle
    omega

/-- Nothing but the cut is greedy behind the words of the row begun. -/
theorem cut_eq_of_greedy (hbegun : begun ≠ []) (hused : (Row.render ⟨start, begun⟩).length = used)
    {row : List Text} {later : List (List Text)} (hflatten : row ++ later.flatten = words)
    (hne : [] ∉ later) (hgreedy : Greedy limit (arrange start indent ((begun ++ row) :: later))) :
    cut limit indent used words = (row, later) := by
  -- Whether the next word is on the row begun or on a new one says which way the cut goes.
  induction words generalizing start begun used row later with
  | nil =>
      obtain ⟨rfl, hlater⟩ := List.append_eq_nil_iff.mp hflatten
      cases later with
      | nil => rfl
      | cons group more =>
          simp only [List.flatten_cons, List.append_eq_nil_iff] at hlater
          exact absurd (hlater.1 ▸ List.mem_cons_self) hne
  | cons word rest ih =>
      cases row with
      | nil =>
          cases later with
          | nil => simp at hflatten
          | cons group later =>
              obtain ⟨first, more, rfl⟩ := List.exists_cons_of_ne_nil
                fun hnil => hne (hnil ▸ List.mem_cons_self)
              obtain ⟨rfl, hrest⟩ := List.cons.inj hflatten
              rw [List.append_nil, greedy_arrange_cons_cons_iff, hused] at hgreedy
              obtain ⟨_, hlong, hnext⟩ := hgreedy
              have hused : (Row.render ⟨Text.blanks indent, [first]⟩).length =
                  indent + first.length := by
                rw [Row.length_render_singleton, Text.length_blanks]
              rw [cut_cons_of_lt hlong, ih (List.cons_ne_nil first []) hused hrest
                (fun hmem => hne (List.mem_cons_of_mem _ hmem)) hnext]
      | cons first more =>
          obtain ⟨rfl, hrest⟩ := List.cons.inj hflatten
          have hroom := room_of_fits hbegun hused (hgreedy.fits _ List.mem_cons_self)
          have hmoved : begun ++ first :: more = (begun ++ [first]) ++ more := by simp
          rw [hmoved] at hgreedy
          have hlength := length_render_of_next hbegun hused first
          rw [cut_cons_of_le hroom, ih (by simp) hlength hrest hne hgreedy]

/-! ## Wrapped texts -/

theorem wrap_eq_singleton {text : Text} (indent : Nat)
    (hwhole : text.length ≤ limit ∨ text.words = []) : wrap text indent limit = [text] := by
  unfold wrap
  split
  next => rfl
  next hlong =>
    rw [hwhole.resolve_left hlong]

theorem greedy_rowWords (limit indent : Nat) (lead first : Text) (rest : List Text) :
    Greedy limit (arrange (opening limit indent lead first) indent
      (rowWords limit indent lead first rest)) :=
  greedy_cut (List.cons_ne_nil first []) (Row.length_render_singleton _ first) (.inr rfl) rest

theorem eq_rowWords_of_greedy {lead first : Text} {rest : List Text} {others : List (List Text)}
    (hcut : IsCut (first :: rest) others)
    (hgreedy : Greedy limit (arrange (opening limit indent lead first) indent others)) :
    others = rowWords limit indent lead first rest := by
  obtain ⟨row, later, rfl, hrest, hne⟩ := hcut.exists_eq_cons
  rw [rowWords, cut_eq_of_greedy (List.cons_ne_nil first []) (Row.length_render_singleton _ first)
    hrest hne hgreedy]

theorem last_solid_of_mem_arrange {groups : List (List Text)}
    (hcut : IsCut words groups) (hwords : ∀ word ∈ words, Text.IsWord word) {row : Row}
    (hrow : row ∈ arrange start indent groups) :
    ∃ c ∈ row.render.getLast?, Text.isSpace c = false := by
  have hmem := words_mem_of_mem_arrange hrow
  have hne : row.words ≠ [] := fun hnil => hcut.nil_notMem (hnil ▸ hmem)
  obtain ⟨front, word, hword, hjoin⟩ := Text.exists_joinWith_eq_append [' '] hne
  have hflat : word ∈ words := hcut.flatten_eq ▸ List.mem_flatten_of_mem hmem hword
  rw [Row.render, hjoin, ← List.append_assoc]
  exact (hwords word hflat).last_solid _

/-- What a text is wrapped to. One that fits or has no word stays as it is. Any other is a cut of
its words set as rows: the first behind the leading white space, or behind the indentation if its
first word does not fit after that, the others behind the indentation. Each row fits or is a
single word, none has room for the next word, and no other cut has such rows. No line is blank or
ends in white space. -/
theorem wrap_layout (text : Text) (indent limit : Nat) :
    (text.length ≤ limit ∨ text.words = [] → wrap text indent limit = [text]) ∧
      ∀ first rest, limit < text.length → text.words = first :: rest →
        let lead := text.leadingSpace
        let start := if lead.length + first.length ≤ limit then lead else Text.blanks indent
        ∃ groups, IsCut text.words groups ∧ Greedy limit (arrange start indent groups) ∧
          wrap text indent limit = (arrange start indent groups).map Row.render ∧
          (∀ others, IsCut text.words others → Greedy limit (arrange start indent others) →
            others = groups) ∧
          ∀ line ∈ wrap text indent limit, ¬ Text.IsBlank line ∧
            ∀ c ∈ line.getLast?, Text.isSpace c = false := by
  refine ⟨wrap_eq_singleton indent, ?_⟩
  intro first rest hlong hwords lead start
  have hcut : IsCut text.words (rowWords limit indent lead first rest) :=
    hwords ▸ isCut_rowWords limit indent lead first rest
  have hgroups := greedy_rowWords limit indent lead first rest
  refine ⟨_, hcut, hgroups, wrap_eq_arrange hlong hwords, ?_, ?_⟩
  · intro others hothers hgreedy
    exact eq_rowWords_of_greedy (hwords ▸ hothers) hgreedy
  · intro line hline
    rw [wrap_eq_arrange hlong hwords] at hline
    obtain ⟨row, hrow, rfl⟩ := List.mem_map.mp hline
    obtain ⟨c, hlast, hsolid⟩ := last_solid_of_mem_arrange hcut
      (fun word hword => Text.isWord_of_mem_words hword) hrow
    constructor
    · intro hblank
      rw [hblank c (List.mem_of_getLast? hlast)] at hsolid
      contradiction
    · intro d hd
      rw [Option.mem_unique hd hlast]
      exact hsolid

/-- A first row behind the leading white space, and a word that is too long for any row. -/
theorem wrap_layout_overlong :
    let text : Text := "  on to overlong a b".toList
    let groups := [["on".toList, "to".toList], ["overlong".toList], ["a".toList, "b".toList]]
    8 < text.length ∧ text.words = "on".toList :: ["to", "overlong", "a", "b"].map String.toList ∧
      IsCut text.words groups ∧ Greedy 8 (arrange "  ".toList 1 groups) ∧
      wrap text 1 8 = (arrange "  ".toList 1 groups).map Row.render ∧
      ∀ line ∈ wrap text 1 8, ¬ Text.IsBlank line := by
  intro text groups
  have hlong : 8 < text.length := by decide
  have hwords : text.words = "on".toList :: ["to", "overlong", "a", "b"].map String.toList := by
    decide
  have hcut : IsCut text.words groups := by decide
  have hgreedy : Greedy 8 (arrange "  ".toList 1 groups) := by decide
  obtain ⟨found, _, _, hwrap, hunique, hlines⟩ := (wrap_layout text 1 8).2 _ _ hlong hwords
  have hgroups : groups = found := hunique groups hcut hgreedy
  refine ⟨hlong, hwords, hcut, hgreedy, hgroups ▸ hwrap, ?_⟩
  exact fun line hline => (hlines line hline).1

end Layout

end Transcript
