import Mathlib.Data.List.TakeWhile
import Transcript.Text.Space

/-!
# Words

Everything about the words of a text follows from one equation: the words of two texts
with white space between them are the words of the first and then those of the second.
Hence white space at the front does not matter, a run free of white space is one word,
and words joined by spaces are read back as they were.
-/

namespace Transcript.Text

/-- A text that is a word: it is not empty and free of white space. -/
structure IsWord (word : Text) : Prop where
  ne_nil : word ≠ []
  solid : ∀ c ∈ word, isSpace c = false

/-- A text of white space only. -/
def IsBlank (text : Text) : Prop := ∀ c ∈ text, isSpace c = true

theorem isSpace_blank : isSpace ' ' = true := rfl

theorem isSpace_lineFeed : isSpace '\n' = true := rfl

theorem isBlank_leadingSpace (text : Text) : IsBlank text.leadingSpace :=
  fun _ hmem => List.mem_takeWhile_imp hmem

theorem isBlank_blanks (width : Nat) : IsBlank (blanks width) := by
  intro c hmem
  rw [List.eq_of_mem_replicate hmem]
  exact isSpace_blank

theorem leadingSpace_append_trimStart (text : Text) :
    text.leadingSpace ++ text.trimStart = text :=
  List.takeWhile_append_dropWhile

theorem IsWord.head_solid {word : Text} (hword : IsWord word) :
    ∀ c ∈ word.head?, isSpace c = false :=
  fun c hhead => hword.solid c (List.mem_of_mem_head? hhead)

theorem IsWord.last_solid {word : Text} (hword : IsWord word) (front : Text) :
    ∃ c ∈ (front ++ word).getLast?, isSpace c = false := by
  refine ⟨word.getLast hword.ne_nil, ?_, hword.solid _ (List.getLast_mem hword.ne_nil)⟩
  rw [List.getLast?_append, List.getLast?_eq_some_getLast hword.ne_nil]
  rfl

/-- The white space in front of a text that does not begin with any is its leading space. -/
theorem leadingSpace_append {blank text : Text} (hblank : IsBlank blank)
    (hsolid : ∀ c ∈ text.head?, isSpace c = false) : (blank ++ text).leadingSpace = blank := by
  unfold leadingSpace
  rw [List.takeWhile_append_of_pos hblank]
  cases text with
  | nil => exact List.append_nil blank
  | cons c rest =>
      rw [List.takeWhile_cons_of_neg (Bool.eq_false_iff.mp (hsolid c rfl)), List.append_nil]

theorem trimStart_append {blank text : Text} (hblank : IsBlank blank)
    (hsolid : ∀ c ∈ text.head?, isSpace c = false) : (blank ++ text).trimStart = text := by
  unfold trimStart
  rw [List.dropWhile_append_of_pos hblank]
  cases text with
  | nil => rfl
  | cons c rest => rw [List.dropWhile_cons_of_neg (Bool.eq_false_iff.mp (hsolid c rfl))]

/-! ## Reading from the end -/

theorem WordScan.push_space {c : Char} (hspace : isSpace c = true) (scan : WordScan) :
    scan.push c = ⟨[], scan.words⟩ := by
  rcases scan with ⟨opening, later⟩
  cases opening with
  | nil => simp [push, WordScan.words, hspace]
  | cons first rest => simp [push, WordScan.words, hspace]

/-- Words read before are not touched by what is read in front of them. -/
theorem WordScan.foldr_push_later (text : Text) (later : List Text) :
    text.foldr push ⟨[], later⟩ =
      ⟨(text.foldr push ⟨[], []⟩).opening, (text.foldr push ⟨[], []⟩).later ++ later⟩ := by
  induction text with
  | nil => rfl
  | cons c rest ih =>
      rw [List.foldr_cons, List.foldr_cons, ih]
      rcases rest.foldr push ⟨[], []⟩ with ⟨opening, before⟩
      cases hspace : isSpace c with
      | true => cases opening <;> simp [push, hspace]
      | false => simp [push, hspace]

theorem words_nil : words [] = [] := rfl

/-- Words split at white space. -/
theorem words_append_space {c : Char} (hspace : isSpace c = true) (left right : Text) :
    words (left ++ c :: right) = words left ++ words right := by
  unfold words
  rw [List.foldr_append, List.foldr_cons, WordScan.push_space hspace,
    WordScan.foldr_push_later left]
  rcases left.foldr WordScan.push ⟨[], []⟩ with ⟨opening, later⟩
  cases opening <;> simp [WordScan.words]

theorem words_cons_space {c : Char} (hspace : isSpace c = true) (text : Text) :
    words (c :: text) = words text :=
  words_append_space hspace [] text

/-- White space at the front belongs to no word. -/
theorem words_append_of_isBlank {blank : Text} (hblank : IsBlank blank) (text : Text) :
    words (blank ++ text) = words text := by
  induction blank with
  | nil => rfl
  | cons c rest ih =>
      rw [List.cons_append, words_cons_space (hblank c List.mem_cons_self)]
      exact ih fun d hmem => hblank d (List.mem_cons_of_mem c hmem)

/-- Words split at a gap of white space. -/
theorem words_append_gap {gap : Text} (hblank : IsBlank gap) (hne : gap ≠ [])
    (left right : Text) : words (left ++ gap ++ right) = words left ++ words right := by
  obtain ⟨c, rest, rfl⟩ := List.exists_cons_of_ne_nil hne
  rw [List.append_assoc, List.cons_append, words_append_space (hblank c List.mem_cons_self),
    words_append_of_isBlank fun d hmem => hblank d (List.mem_cons_of_mem c hmem)]

/-! ## Single words -/

theorem WordScan.foldr_push_solid {word : Text} (hsolid : ∀ c ∈ word, isSpace c = false) :
    word.foldr push ⟨[], []⟩ = ⟨word, []⟩ := by
  induction word with
  | nil => rfl
  | cons c rest ih =>
      rw [List.foldr_cons, ih fun d hmem => hsolid d (List.mem_cons_of_mem c hmem)]
      simp [push, hsolid c List.mem_cons_self]

theorem words_of_isWord {word : Text} (hword : IsWord word) : words word = [word] := by
  unfold words
  rw [WordScan.foldr_push_solid hword.solid]
  simp [WordScan.words, hword.ne_nil]

theorem WordScan.isWord_foldr_push (text : Text) :
    (∀ c ∈ (text.foldr push ⟨[], []⟩).opening, isSpace c = false) ∧
      ∀ word ∈ (text.foldr push ⟨[], []⟩).later, IsWord word := by
  induction text with
  | nil => exact ⟨fun _ hmem => absurd hmem List.not_mem_nil,
      fun _ hmem => absurd hmem List.not_mem_nil⟩
  | cons c rest ih =>
      -- What was read of the rest matters only by its opening word and its later words.
      rw [List.foldr_cons]
      revert ih
      rcases rest.foldr push ⟨[], []⟩ with ⟨opening, later⟩
      intro ih
      cases hspace : isSpace c with
      | true =>
          rw [push_space hspace]
          refine ⟨fun _ hmem => absurd hmem List.not_mem_nil, ?_⟩
          intro word hmem
          cases opening with
          | nil => exact ih.2 word hmem
          | cons first more =>
              rcases List.mem_cons.mp hmem with rfl | hlater
              · exact ⟨List.cons_ne_nil first more, ih.1⟩
              · exact ih.2 word hlater
      | false =>
          have hpush : push c ⟨opening, later⟩ = ⟨c :: opening, later⟩ := by
            simp [push, hspace]
          rw [hpush]
          refine ⟨?_, ih.2⟩
          intro d hmem
          rcases List.mem_cons.mp hmem with rfl | hopening
          · exact hspace
          · exact ih.1 d hopening

/-- A text that does not begin with white space has a word. -/
theorem words_cons_ne_nil {c : Char} (hsolid : isSpace c = false) (text : Text) :
    words (c :: text) ≠ [] := by
  unfold words
  rw [List.foldr_cons]
  simp [WordScan.push, WordScan.words, hsolid]

theorem exists_words_eq_cons {text : Text} (hne : text ≠ [])
    (hsolid : ∀ c ∈ text.head?, isSpace c = false) : ∃ first rest, text.words = first :: rest := by
  obtain ⟨c, rest, rfl⟩ := List.exists_cons_of_ne_nil hne
  exact List.exists_cons_of_ne_nil (words_cons_ne_nil (hsolid c rfl) rest)

/-- The words of a text are words. -/
theorem isWord_of_mem_words {text word : Text} (hmem : word ∈ words text) : IsWord word := by
  obtain ⟨hopening, hlater⟩ := WordScan.isWord_foldr_push text
  unfold words at hmem
  revert hopening hlater hmem
  rcases text.foldr WordScan.push ⟨[], []⟩ with ⟨opening, later⟩
  intro hmem hopening hlater
  cases opening with
  | nil => exact hlater word hmem
  | cons first rest =>
      rcases List.mem_cons.mp hmem with rfl | hmem
      · exact ⟨List.cons_ne_nil first rest, hopening⟩
      · exact hlater word hmem

/-! ## Joined words -/

theorem joinWith_cons_cons (separator piece next : Text) (pieces : List Text) :
    joinWith separator (piece :: next :: pieces) =
      piece ++ separator ++ joinWith separator (next :: pieces) :=
  List.intercalate_cons_cons

/-- Joined pieces begin with the first of them. -/
theorem exists_joinWith_cons (separator piece : Text) (pieces : List Text) :
    ∃ rest, joinWith separator (piece :: pieces) = piece ++ rest := by
  cases pieces with
  | nil => exact ⟨[], by simp [joinWith]⟩
  | cons next more => exact ⟨_, by rw [joinWith_cons_cons, List.append_assoc]⟩

/-- Joined pieces end with one of them. -/
theorem exists_joinWith_eq_append (separator : Text) {pieces : List Text} (hne : pieces ≠ []) :
    ∃ front, ∃ piece ∈ pieces, joinWith separator pieces = front ++ piece := by
  induction pieces with
  | nil => contradiction
  | cons piece rest ih =>
      cases rest with
      | nil => exact ⟨[], piece, List.mem_cons_self, by simp [joinWith]⟩
      | cons next more =>
          obtain ⟨front, last, hlast, hjoin⟩ := ih (List.cons_ne_nil next more)
          refine ⟨piece ++ separator ++ front, last, List.mem_cons_of_mem piece hlast, ?_⟩
          rw [joinWith_cons_cons, hjoin, List.append_assoc _ front]

/-- Words joined by single spaces are read back. -/
theorem words_joinWith {pieces : List Text} (hwords : ∀ word ∈ pieces, IsWord word) :
    words (joinWith [' '] pieces) = pieces := by
  induction pieces with
  | nil => rfl
  | cons word rest ih =>
      have hhead : IsWord word := hwords word List.mem_cons_self
      have htail := ih fun other hmem => hwords other (List.mem_cons_of_mem word hmem)
      cases rest with
      | nil => simpa [joinWith] using words_of_isWord hhead
      | cons next more =>
          rw [joinWith_cons_cons, List.append_assoc, List.singleton_append,
            words_append_space isSpace_blank, words_of_isWord hhead, htail]
          rfl

end Transcript.Text
