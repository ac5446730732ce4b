import Transcript.Proofs.Text.Words
import Transcript.StatusLine

/-!
# The grammar of status lines

A line read as a status line is its indentation, its marker, a gap and its description,
one after the other. The marker is a word, so the words of the line are the marker and
the words of the description, however wide the gap is.
-/

namespace Transcript.StatusLine

/-- A text that is a marker: a symbol, or a number and a closing parenthesis. -/
inductive IsMarker : Text → Prop
  | symbol {c : Char} (hsymbol : isSymbol c = true) : IsMarker [c]
  | number {digits : Text} (hne : digits ≠ [])
      (hdigits : ∀ c ∈ digits, Text.isDigit c = true) : IsMarker (digits ++ [')'])

/-- The line holds the parts of the status line, in order, and the gap after the marker. -/
structure Written (status : StatusLine) (gap line : Text) : Prop where
  line_eq : line = status.indent ++ status.marker ++ gap ++ status.description
  indent_blank : Text.IsBlank status.indent
  marker : IsMarker status.marker
  gap_blank : Text.IsBlank gap
  gap_ne_nil : gap ≠ []
  description_solid : ∀ c ∈ status.description.head?, Text.isSpace c = false
  description_unbroken : '\n' ∉ status.description

/-! ## Markers -/

theorem isSpace_of_isSymbol {c : Char} (hsymbol : isSymbol c = true) :
    Text.isSpace c = false := by
  simp only [isSymbol, Bool.or_eq_true, decide_eq_true_eq] at hsymbol
  rcases hsymbol with ((rfl | rfl) | rfl) | rfl <;> rfl

theorem isSpace_of_isDigit {c : Char} (hdigit : Text.isDigit c = true) :
    Text.isSpace c = false := by
  have hlow : 48 ≤ c.toNat := by
    simp only [Text.isDigit, Bool.and_eq_true, decide_eq_true_eq] at hdigit
    exact hdigit.1
  have hhigh : c.toNat ≤ 57 := by
    simp only [Text.isDigit, Bool.and_eq_true, decide_eq_true_eq] at hdigit
    exact hdigit.2
  simp only [Text.isSpace, Bool.or_eq_false_iff, Bool.and_eq_false_iff, decide_eq_false_iff_not,
    beq_eq_false_iff_ne]
  omega

theorem IsMarker.isWord {marker : Text} (hmarker : IsMarker marker) : Text.IsWord marker := by
  cases hmarker with
  | symbol hsymbol =>
      refine ⟨List.cons_ne_nil _ _, ?_⟩
      intro c hmem
      rw [List.mem_singleton.mp hmem]
      exact isSpace_of_isSymbol hsymbol
  | number hne hdigits =>
      refine ⟨List.append_ne_nil_of_left_ne_nil hne _, ?_⟩
      intro c hmem
      rcases List.mem_append.mp hmem with hmem | hmem
      · exact isSpace_of_isDigit (hdigits c hmem)
      · rw [List.mem_singleton.mp hmem]
        rfl

/-- Splitting off a marker divides the text after a marker. -/
theorem splitMarker?_eq_some {text marker rest : Text}
    (hsplit : splitMarker? text = some (marker, rest)) :
    text = marker ++ rest ∧ IsMarker marker := by
  cases text with
  | nil => simp [splitMarker?] at hsplit
  | cons c tail =>
      rw [splitMarker?] at hsplit
      split at hsplit
      next hsymbol =>
        cases hsplit
        exact ⟨rfl, .symbol hsymbol⟩
      next =>
        split at hsplit
        next hdigit =>
          split at hsplit
          next after hafter =>
            cases hsplit
            refine ⟨?_, .number (List.cons_ne_nil _ _) ?_⟩
            · have htail := List.takeWhile_append_dropWhile (p := Text.isDigit) (l := tail)
              rw [hafter] at htail
              simp [htail]
            · intro d hmem
              rcases List.mem_cons.mp hmem with rfl | hmem
              · exact hdigit
              · exact List.mem_takeWhile_imp hmem
          next => simp at hsplit
        next => simp at hsplit

theorem IsMarker.head_solid {marker : Text} (hmarker : IsMarker marker) (text : Text) :
    ∀ c ∈ (marker ++ text).head?, Text.isSpace c = false := by
  obtain ⟨first, rest, rfl⟩ := List.exists_cons_of_ne_nil hmarker.isWord.ne_nil
  exact fun c hhead => hmarker.isWord.head_solid c hhead

theorem isSymbol_of_isDigit {c : Char} (hdigit : Text.isDigit c = true) : isSymbol c = false := by
  cases hsymbol : isSymbol c with
  | false => rfl
  | true =>
      simp only [isSymbol, Bool.or_eq_true, decide_eq_true_eq] at hsymbol
      rcases hsymbol with ((rfl | rfl) | rfl) | rfl <;> exact absurd hdigit (by decide)

/-- A marker is split off whatever stands behind it. -/
theorem splitMarker?_append {marker : Text} (hmarker : IsMarker marker) (rest : Text) :
    splitMarker? (marker ++ rest) = some (marker, rest) := by
  cases hmarker with
  | symbol hsymbol => rw [List.singleton_append, splitMarker?, if_pos hsymbol]
  | @number digits hne hdigits =>
      obtain ⟨c, more, rfl⟩ := List.exists_cons_of_ne_nil hne
      have hdigit : Text.isDigit c = true := hdigits c List.mem_cons_self
      have hmore : ∀ d ∈ more, Text.isDigit d = true :=
        fun d hmem => hdigits d (List.mem_cons_of_mem c hmem)
      have hstop : Text.isDigit ')' = false := rfl
      rw [List.append_assoc, List.cons_append, splitMarker?,
        if_neg (Bool.eq_false_iff.mp (isSymbol_of_isDigit hdigit)), if_pos hdigit,
        List.dropWhile_append_of_pos hmore, List.takeWhile_append_of_pos hmore]
      simp [hstop]

/-! ## Lines -/

/-- A line read as a status line writes it. -/
theorem written_of_parse? {line : Text} {status : StatusLine}
    (hparse : parse? line = some status) : ∃ gap, Written status gap line := by
  unfold parse? at hparse
  split at hparse
  next => simp at hparse
  next marker rest hsplit =>
    split at hparse
    next => simp at hparse
    next hgap =>
      cases hparse
      obtain ⟨htext, hmarker⟩ := splitMarker?_eq_some hsplit
      simp only [Bool.or_eq_true, not_or, List.isEmpty_iff, List.elem_eq_mem,
        decide_eq_true_eq] at hgap
      refine ⟨rest.leadingSpace, ?_, Text.isBlank_leadingSpace line, hmarker,
        Text.isBlank_leadingSpace rest, hgap.1, ?_, hgap.2⟩
      · rw [List.append_assoc, Text.leadingSpace_append_trimStart, List.append_assoc, ← htext,
          Text.leadingSpace_append_trimStart]
      · intro c hhead
        have hnot := List.head?_dropWhile_not Text.isSpace rest
        rw [Text.trimStart] at hhead
        rw [hhead] at hnot
        exact hnot

/-- The words of a status line are its marker and the words of its description. -/
theorem Written.words {status : StatusLine} {gap line : Text} (hwritten : Written status gap line) :
    Text.words line = status.marker :: Text.words status.description := by
  rw [hwritten.line_eq, Text.words_append_gap hwritten.gap_blank hwritten.gap_ne_nil,
    Text.words_append_of_isBlank hwritten.indent_blank,
    Text.words_of_isWord hwritten.marker.isWord, List.singleton_append]

/-- What stands before the description is the marker, as far as words go. -/
theorem Written.words_lead_append {status : StatusLine} {gap line : Text}
    (hwritten : Written status gap line) (text : Text) :
    Text.words (status.lead ++ text) = status.marker :: Text.words text := by
  rw [lead, List.append_assoc, List.singleton_append, Text.words_append_space Text.isSpace_blank,
    Text.words_append_of_isBlank hwritten.indent_blank,
    Text.words_of_isWord hwritten.marker.isWord, List.singleton_append]

/-! ## Reading what was written -/

namespace Written

variable {status : StatusLine} {gap line : Text}

theorem line_eq_indent_append (hwritten : Written status gap line) :
    line = status.indent ++ (status.marker ++ (gap ++ status.description)) := by
  rw [hwritten.line_eq, List.append_assoc, List.append_assoc]

theorem leadingSpace (hwritten : Written status gap line) : line.leadingSpace = status.indent := by
  rw [hwritten.line_eq_indent_append]
  exact Text.leadingSpace_append hwritten.indent_blank (hwritten.marker.head_solid _)

/-- A line is read as the status line it writes. -/
theorem parse?_eq (hwritten : Written status gap line) :
    StatusLine.parse? line = some status := by
  have hgap : (gap ++ status.description).leadingSpace = gap :=
    Text.leadingSpace_append hwritten.gap_blank hwritten.description_solid
  have hdescription : (gap ++ status.description).trimStart = status.description :=
    Text.trimStart_append hwritten.gap_blank hwritten.description_solid
  have hline : line.trimStart = status.marker ++ (gap ++ status.description) := by
    rw [hwritten.line_eq_indent_append]
    exact Text.trimStart_append hwritten.indent_blank (hwritten.marker.head_solid _)
  unfold StatusLine.parse?
  rw [hline, splitMarker?_append hwritten.marker]
  simp [hgap, hdescription, hwritten.leadingSpace, hwritten.gap_ne_nil,
    hwritten.description_unbroken]

end Written

/-- A word that stands alone is no status line. -/
theorem parse?_append_word {blank word : Text} (hblank : Text.IsBlank blank)
    (hword : Text.IsWord word) : parse? (blank ++ word) = none := by
  cases hparse : parse? (blank ++ word) with
  | none => rfl
  | some status =>
      obtain ⟨gap, hwritten⟩ := written_of_parse? hparse
      have hindent : status.indent = blank := by
        rw [← hwritten.leadingSpace, Text.leadingSpace_append hblank hword.head_solid]
      have heq : word = status.marker ++ (gap ++ status.description) := by
        have hline := hwritten.line_eq_indent_append
        rw [hindent] at hline
        exact List.append_cancel_left hline
      -- The gap would be white space inside the word.
      obtain ⟨c, rest, hgap⟩ := List.exists_cons_of_ne_nil hwritten.gap_ne_nil
      have hspace : Text.isSpace c = true := hwritten.gap_blank c (by simp [hgap])
      have hsolid : Text.isSpace c = false := hword.solid c (by simp [heq, hgap])
      exact absurd hspace (Bool.eq_false_iff.mp hsolid)

end Transcript.StatusLine
