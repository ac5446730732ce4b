import Transcript.Document.Json5
import Transcript.Proofs.Decimal

/-!
# Reading JSON5

What each reader of JSON5 does with the character that comes next.
-/

namespace Transcript.Json5

/-! ## Blanks -/

theorem skip?_of_ne_slash {c : Char} (hslash : c ≠ '/') (rest : Text) :
    skip? (c :: rest) = if isBlank c then some rest else none := by
  unfold skip?
  split
  next heq => cases heq
  next heq => exact absurd (List.cons.inj heq).1 hslash
  next heq => exact absurd (List.cons.inj heq).1 hslash
  next heq =>
    obtain ⟨rfl, rfl⟩ := List.cons.inj heq
    rfl

theorem skip?_digit {c : Char} (hdigit : Text.isDigit c = true) (rest : Text) :
    skip? (c :: rest) = none := by
  have hc : c ≠ '/' ∧ isBlank c = false :=
    Text.forall_isDigit (P := fun c => c ≠ '/' ∧ isBlank c = false) (by decide +kernel) hdigit
  rw [skip?_of_ne_slash hc.1, hc.2]
  rfl

/-! ## Strings -/

theorem pieces?_unit (quote : Char) {a b c d : Char} {code : Nat}
    (hcode : Text.hex4? a b c d = some code) (rest : Text) :
    pieces? quote ('\\' :: 'u' :: a :: b :: c :: d :: rest) =
      (pieces? quote rest).map (Prod.map (.unit code :: ·) id) := by
  rw [pieces?, hcode]
  cases pieces? quote rest <;> rfl

theorem pieces?_escaped (quote : Char) {letter c : Char} (hescaped : escaped? letter = some c)
    (hend : isLineEnd letter = false) (rest : Text) :
    pieces? quote ('\\' :: letter :: rest) =
      (pieces? quote rest).map (Prod.map (.char c :: ·) id) := by
  have hu : letter ≠ 'u' := by rintro rfl; cases hescaped
  have hx : letter ≠ 'x' := by rintro rfl; cases hescaped
  have hreturn : letter ≠ '\r' := by rintro rfl; cases hend
  rw [pieces?]
  · rw [hend, hescaped]
    cases pieces? quote rest <;> rfl
  · exact fun _ _ _ _ _ h => absurd h hu
  · exact fun _ _ _ h => absurd h hx
  · exact fun _ h => absurd h hreturn

theorem pieces?_char {quote c : Char} (hslash : c ≠ '\\') (hquote : c ≠ quote) (rest : Text) :
    pieces? quote (c :: rest) =
      if isLineEnd c then none else (pieces? quote rest).map (Prod.map (.char c :: ·) id) := by
  rw [pieces?]
  · rw [if_neg hquote]
    cases pieces? quote rest <;> rfl
  · exact fun _ _ _ _ _ h => absurd h hslash
  · exact fun _ _ _ h => absurd h hslash
  · exact fun _ h => absurd h hslash
  · exact fun _ _ h => absurd h hslash

/-! ## Words -/

theorem beginsWord_of_isDigit {c : Char} (hdigit : Text.isDigit c = true) :
    beginsWord c = false :=
  Text.forall_isDigit (P := fun c => beginsWord c = false) (by decide +kernel) hdigit

theorem continuesWord_slash : continuesWord '\\' = false := by decide +kernel

theorem wordPieces_cons {c : Char} (hslash : c ≠ '\\') (rest : Text) :
    wordPieces (c :: rest) =
      if continuesWord c then (.char c :: (wordPieces rest).1, (wordPieces rest).2)
      else ([], c :: rest) := by
  rw [wordPieces]
  exact fun _ _ _ _ _ h => absurd h hslash

/-- A word is taken up to the first character that cannot continue it. -/
theorem wordPieces_append {word rest : Text} (hword : word.all continuesWord = true)
    (hrest : wordPieces rest = ([], rest)) :
    wordPieces (word ++ rest) = (word.map .char, rest) := by
  induction word with
  | nil => exact hrest
  | cons c word ih =>
      obtain ⟨hcontinues, hword⟩ := Bool.and_eq_true_iff.1 hword
      have hslash : c ≠ '\\' := by
        rintro rfl
        exact absurd hcontinues (by rw [continuesWord_slash]; exact Bool.false_ne_true)
      rw [List.cons_append, wordPieces_cons hslash, if_pos hcontinues,
        ih hword]
      rfl

theorem word?_cons (c : Char) (rest : Text) :
    word? (c :: rest) =
      if (beginsWord c || c = '\\') && !(wordPieces (c :: rest)).1.isEmpty then
        some (.word (wordPieces (c :: rest)).1, (wordPieces (c :: rest)).2)
      else none := rfl

theorem word?_append {c : Char} {word rest : Text} (hc : beginsWord c = true)
    (hword : (c :: word).all continuesWord = true) (hrest : wordPieces rest = ([], rest)) :
    word? (c :: word ++ rest) = some (.word ((c :: word).map .char), rest) := by
  rw [List.cons_append, word?_cons, ← List.cons_append, wordPieces_append hword hrest, hc]
  rfl

/-! ## Scalars -/

/-- The characters that tell at once what sort of scalar they begin. -/
def marks : List Char := ['"', '\'', '+', '-']

/-- A scalar without a mark is a word or else a number. -/
theorem scalar?_of_not_mem_marks {c : Char} (hc : c ∉ marks) (rest : Text) :
    scalar? (c :: rest) = (word? (c :: rest)).or
      ((unsigned? (c :: rest)).map (Prod.map .number id)) := by
  have hne : ∀ d ∈ marks, c ≠ d := fun d hd heq => hc (heq ▸ hd)
  rw [scalar?]
  · cases word? (c :: rest) <;> rfl
  · exact fun _ h => hne '"' (by decide) (List.cons.inj h).1
  · exact fun _ h => hne '\'' (by decide) (List.cons.inj h).1
  · exact fun _ h => hne '+' (by decide) (List.cons.inj h).1
  · exact fun _ h => hne '-' (by decide) (List.cons.inj h).1

theorem scalar?_word {c : Char} {word rest : Text} (hmark : c ∉ marks)
    (hc : beginsWord c = true) (hword : (c :: word).all continuesWord = true)
    (hrest : wordPieces rest = ([], rest)) :
    scalar? (c :: word ++ rest) = some (.word ((c :: word).map .char), rest) := by
  rw [List.cons_append, scalar?_of_not_mem_marks hmark, ← List.cons_append,
    word?_append hc hword hrest]
  rfl

theorem scalar?_digit {c : Char} (hdigit : Text.isDigit c = true) (rest : Text) :
    scalar? (c :: rest) = (unsigned? (c :: rest)).map (Prod.map .number id) := by
  have hc : c ∉ marks ∧ c ≠ '\\' :=
    Text.forall_isDigit (P := fun c => c ∉ marks ∧ c ≠ '\\') (by decide) hdigit
  have hword : word? (c :: rest) = none := by
    rw [word?_cons, beginsWord_of_isDigit hdigit, decide_eq_false hc.2]
    rfl
  rw [scalar?_of_not_mem_marks hc.1, hword, Option.none_or]

/-! ## Sizes -/

theorem isHexadecimal_digits {digits : Text} (hdigits : ∀ c ∈ digits, Text.isDigit c = true) :
    isHexadecimal digits = false := by
  fun_cases isHexadecimal digits with
  | case1 x rest =>
      have hx : Text.isDigit x = true := hdigits x (List.mem_cons_of_mem _ List.mem_cons_self)
      exact Text.forall_isDigit (P := fun x => (decide (x = 'x') || decide (x = 'X')) = false)
        (by decide) hx
  | case2 => rfl

/-- A number that begins with a digit has no sign and no name. -/
theorem ne_of_isDigit {c : Char} (hc : Text.isDigit c = true) (digits : Text) :
    ∀ d ∈ ['I', 'N', '-', '+'], ∀ rest, c :: digits ≠ d :: rest := by
  intro d hd rest heq
  have hother : c ∉ ['I', 'N', '-', '+'] :=
    Text.forall_isDigit (P := fun c => c ∉ ['I', 'N', '-', '+']) (by decide) hc
  exact hother ((List.cons.inj heq).1 ▸ hd)

theorem splitSign_of_isDigit {c : Char} (hc : Text.isDigit c = true) (digits : Text) :
    splitSign (c :: digits) = (false, c :: digits) := by
  rw [splitSign]
  · exact ne_of_isDigit hc digits '-' (by decide)
  · exact ne_of_isDigit hc digits '+' (by decide)

theorem size?_eq_of_digits {c : Char} {digits : Text}
    (hdigits : ∀ d ∈ c :: digits, Text.isDigit d = true) :
    size? (c :: digits) =
      (Decimal.ofText (c :: digits)).toBinary?.map fun x => min x.floor maxSize := by
  have hc : Text.isDigit c = true := hdigits c List.mem_cons_self
  have hinfinity : c :: digits ≠ infinity := ne_of_isDigit hc digits 'I' (by decide) _
  have hnumber : c :: digits ≠ notANumber := ne_of_isDigit hc digits 'N' (by decide) _
  have hminus : ∀ rest, c :: digits ≠ '-' :: rest := ne_of_isDigit hc digits '-' (by decide)
  have hbinary : binary? (c :: digits) = (Decimal.ofText (c :: digits)).toBinary? :=
    if_pos (by rw [hc]; rfl)
  simp only [size?, hinfinity, hnumber, hminus, isHexadecimal_digits hdigits,
    splitSign_of_isDigit hc, hbinary, decide_false, Bool.or_self, Bool.false_eq_true, if_false]

/-- JSON5 rounds a size that is written with digits only. -/
theorem size?_digits {c : Char} {digits : Text}
    (hdigits : ∀ d ∈ c :: digits, Text.isDigit d = true) {size : Nat}
    (hsize : size? (c :: digits) = some size) :
    size = min (Binary.ofQuotient (Text.digitsValue 10 (c :: digits)) 1).floor maxSize := by
  rw [size?_eq_of_digits hdigits, Decimal.ofText_digits hdigits] at hsize
  obtain ⟨binary, hfound, rfl⟩ := Option.map_eq_some_iff.1 hsize
  rw [Decimal.floor_of_toBinary? hfound]

end Transcript.Json5
