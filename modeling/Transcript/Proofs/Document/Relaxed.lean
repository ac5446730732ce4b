import Transcript.Document.Json
import Transcript.Proofs.Document.Brackets
import Transcript.Proofs.Document.Json5

/-!
# Strict JSON in the relaxed notation

A document in strict JSON is one in JSON5 as well, and a reader of JSON5 that accepts its text finds
the same document in it, in its own scalars. It may refuse a text that strict JSON allows, because
a string of JSON5 has no line end in it.
-/

namespace Transcript.Json

/-- The scalar in the relaxed notation. -/
def Scalar.relaxed : Scalar → Json5.Scalar
  | .null => .word ("null".toList.map .char)
  | .flag true => .word ("true".toList.map .char)
  | .flag false => .word ("false".toList.map .char)
  | .number written => .number written
  | .string pieces => .string pieces

/-- The characters that stand between scalars. -/
def delimiters : List Char := [' ', '\t', '\n', '\r', '[', ']', '{', '}', ',', ':']

/-- What may follow a scalar in a document. -/
def Delimited (rest : Text) : Prop := ∀ c ∈ rest.head?, c ∈ delimiters

/-! ## Strings -/

theorem escaped?_relaxed {letter c : Char} (hescaped : escaped? letter = some c) :
    Json5.escaped? letter = some c ∧ Json5.isLineEnd letter = false := by
  revert hescaped
  fun_cases escaped? letter with
  | case9 => rintro ⟨⟩
  | _ =>
    rintro ⟨⟩
    exact ⟨rfl, rfl⟩

/-- A string that both notations read is the same in both. -/
theorem pieces?_relaxed {text : Text} {strict loose : List Piece × Text}
    (hstrict : pieces? text = some strict) (hloose : Json5.pieces? '"' text = some loose) :
    loose = strict := by
  fun_induction pieces? text generalizing strict loose with
  | case2 rest => exact Option.some.inj (hloose.symm.trans hstrict)
  | case3 a b c d tail code pieces rest hpieces hcode ih =>
      rw [Json5.pieces?_unit '"' hcode] at hloose
      obtain ⟨found, hfound, rfl⟩ := Option.map_eq_some_iff.1 hloose
      obtain rfl := Option.some.inj hstrict
      rw [ih hpieces hfound]
      rfl
  | case5 letter tail hcode c pieces rest hpieces hescaped ih =>
      obtain ⟨hescaped', hend⟩ := escaped?_relaxed hescaped
      rw [Json5.pieces?_escaped '"' hescaped' hend] at hloose
      obtain ⟨found, hfound, rfl⟩ := Option.map_eq_some_iff.1 hloose
      obtain rfl := Option.some.inj hstrict
      rw [ih hpieces hfound]
      rfl
  | case8 c tail hquote hcode hletter hplain pieces rest hpieces ih =>
      have hslash : c ≠ '\\' := by
        rintro rfl
        cases tail with
        | nil => cases hpieces
        | cons letter tail => exact hletter letter tail rfl rfl
      rw [Json5.pieces?_char hslash hquote] at hloose
      obtain ⟨_, hloose⟩ := Option.ite_none_left_eq_some.1 hloose
      obtain ⟨found, hfound, rfl⟩ := Option.map_eq_some_iff.1 hloose
      obtain rfl := Option.some.inj hstrict
      rw [ih hpieces hfound]
      rfl
  | _ => cases hstrict

/-! ## Numbers -/

theorem digits?_eq_some {text digits rest : Text} (hdigits : digits? text = some (digits, rest)) :
    digits = text.takeWhile Text.isDigit ∧ rest = text.dropWhile Text.isDigit := by
  obtain ⟨_, hsplit⟩ := Option.ite_none_left_eq_some.1 hdigits
  obtain ⟨rfl, rfl⟩ := Prod.mk.inj (Option.some.inj hsplit)
  exact ⟨rfl, rfl⟩

theorem whole?_head {text : Text} {split : Text × Text} (hwhole : whole? text = some split) :
    ∃ c tail, text = c :: tail ∧ Text.isDigit c = true := by
  revert hwhole
  fun_cases whole? text with
  | case1 rest => exact fun _ => ⟨'0', rest, rfl, rfl⟩
  | case2 =>
      intro hdigits
      obtain ⟨hsome, _⟩ := Option.ite_none_left_eq_some.1 hdigits
      cases text with
      | nil => exact absurd rfl hsome
      | cons c tail =>
          refine ⟨c, tail, rfl, ?_⟩
          cases hdigit : Text.isDigit c with
          | true => rfl
          | false =>
              rw [List.takeWhile_cons_of_neg (by rw [hdigit]; exact Bool.false_ne_true)] at hsome
              exact absurd rfl hsome

theorem unsigned?_head {text : Text} {split : Text × Text} (hnumber : unsigned? text = some split) :
    ∃ c tail, text = c :: tail ∧ Text.isDigit c = true := by
  obtain ⟨_, hwhole, _⟩ := Option.bind_eq_some_iff.1 hnumber
  exact whole?_head hwhole

theorem pointed?_of_fraction? {text whole rest fraction rest' : Text}
    (hwhole : whole? text = some (whole, rest))
    (hfraction : fraction? rest = some (fraction, rest')) :
    Json5.pointed? text = some (whole ++ fraction, rest') := by
  unfold Json5.pointed?
  split
  next tail => cases hwhole
  next =>
    rw [hwhole]
    revert hfraction
    fun_cases fraction? rest with
    | case1 rest =>
        intro hfraction
        obtain ⟨⟨digits, tail⟩, hdigits, hsplit⟩ := Option.map_eq_some_iff.1 hfraction
        obtain ⟨rfl, rfl⟩ := digits?_eq_some hdigits
        obtain ⟨rfl, rfl⟩ := Prod.mk.inj hsplit
        rfl
    | case2 _ hpoint =>
        intro hfraction
        obtain ⟨rfl, hrest⟩ := Prod.mk.inj (Option.some.inj hfraction)
        subst rest'
        rw [List.append_nil]
        split
        next whole' tail hsome =>
          exact (hpoint tail (Prod.mk.inj (Option.some.inj hsome)).2).elim
        next => rfl

theorem decimal?_of_unsigned? {text number rest : Text}
    (hnumber : unsigned? text = some (number, rest)) :
    Json5.decimal? text = some (number, rest) := by
  obtain ⟨⟨whole, text₁⟩, hwhole, hnumber⟩ := Option.bind_eq_some_iff.1 hnumber
  obtain ⟨⟨fraction, text₂⟩, hfraction, hnumber⟩ := Option.bind_eq_some_iff.1 hnumber
  obtain ⟨⟨power, text₃⟩, hpower, hnumber⟩ := Option.bind_eq_some_iff.1 hnumber
  obtain ⟨rfl, rfl⟩ := Prod.mk.inj (Option.some.inj hnumber)
  have hpower : power? text₂ = some (power, text₃) := hpower
  rw [Json5.decimal?, pointed?_of_fraction? hwhole hfraction]
  simp only [hpower]

/-- A zero before a letter is a number of its own. -/
theorem unsigned?_zero_letter {x : Char} (hx : x = 'x' ∨ x = 'X') (rest : Text) :
    unsigned? ('0' :: x :: rest) = some (['0'], x :: rest) := by
  obtain rfl | rfl := hx <;> rfl

theorem hexadecimal?_of_unsigned? {text number rest : Text}
    (hnumber : unsigned? text = some (number, rest)) (hrest : Delimited rest) :
    Json5.hexadecimal? text = none := by
  fun_cases Json5.hexadecimal? text with
  | case1 x tail digits hx =>
      obtain ⟨hx, -⟩ := Bool.and_eq_true_iff.1 hx
      have hx : x = 'x' ∨ x = 'X' := by simpa using hx
      rw [unsigned?_zero_letter hx] at hnumber
      obtain ⟨rfl, rfl⟩ := Prod.mk.inj (Option.some.inj hnumber)
      have hdelimiter := hrest x rfl
      obtain rfl | rfl := hx
      · exact absurd hdelimiter (by decide)
      · exact absurd hdelimiter (by decide)
  | case2 => rfl
  | case3 => rfl

/-- A number before a delimiter is the same in both notations. -/
theorem unsigned?_relaxed {text number rest : Text}
    (hnumber : unsigned? text = some (number, rest)) (hrest : Delimited rest) :
    Json5.unsigned? text = some (number, rest) := by
  rw [Json5.unsigned?, hexadecimal?_of_unsigned? hnumber hrest, decimal?_of_unsigned? hnumber]
  rfl

/-! ## Scalars -/

theorem delimiters_end_word : delimiters.any Json5.continuesWord = false := by decide +kernel

theorem wordPieces_of_delimited {rest : Text} (hrest : Delimited rest) :
    Json5.wordPieces rest = ([], rest) := by
  cases rest with
  | nil => rfl
  | cons c tail =>
      have hdelimiter : c ∈ delimiters := hrest c rfl
      have hslash : c ≠ '\\' := by
        rintro rfl
        exact absurd hdelimiter (by decide)
      rw [Json5.wordPieces_cons hslash,
        if_neg (List.any_eq_false.1 delimiters_end_word c hdelimiter)]

/-- A scalar before a delimiter that both notations read is the same in both. -/
theorem scalar?_relaxed {text rest : Text} {value : Scalar} {loose : Json5.Scalar × Text}
    (hstrict : scalar? text = some (value, rest)) (hrest : Delimited rest)
    (hloose : Json5.scalar? text = some loose) : loose = (value.relaxed, rest) := by
  have hword : ∀ c word, c ∉ Json5.marks → Json5.beginsWord c = true →
      (c :: word).all Json5.continuesWord = true → text = c :: word ++ rest →
      loose = (.word ((c :: word).map .char), rest) := by
    rintro c word hmark hbegins hcontinues rfl
    rw [Json5.scalar?_word hmark hbegins hcontinues (wordPieces_of_delimited hrest)] at hloose
    exact (Option.some.inj hloose).symm
  revert hstrict
  fun_cases scalar? text with
  | case1 tail =>
      rintro ⟨⟩
      exact hword 'n' "ull".toList (by decide) (by decide +kernel) (by decide +kernel) rfl
  | case2 tail =>
      rintro ⟨⟩
      exact hword 't' "rue".toList (by decide) (by decide +kernel) (by decide +kernel) rfl
  | case3 tail =>
      rintro ⟨⟩
      exact hword 'f' "alse".toList (by decide) (by decide +kernel) (by decide +kernel) rfl
  | case4 tail =>
      intro hstrict
      obtain ⟨⟨pieces, tail⟩, hpieces, hsplit⟩ := Option.map_eq_some_iff.1 hstrict
      obtain ⟨rfl, rfl⟩ := Prod.mk.inj hsplit
      obtain ⟨found, hfound, rfl⟩ := Option.map_eq_some_iff.1 hloose
      rw [pieces?_relaxed hpieces hfound]
      rfl
  | case5 tail =>
      intro hstrict
      obtain ⟨⟨number, tail⟩, hnumber, hsplit⟩ := Option.map_eq_some_iff.1 hstrict
      obtain ⟨rfl, rfl⟩ := Prod.mk.inj hsplit
      obtain ⟨found, hfound, rfl⟩ := Option.map_eq_some_iff.1 hloose
      rw [unsigned?_relaxed hnumber hrest] at hfound
      obtain rfl := Option.some.inj hfound
      rfl
  | case6 =>
      intro hstrict
      obtain ⟨⟨number, tail⟩, hnumber, hsplit⟩ := Option.map_eq_some_iff.1 hstrict
      obtain ⟨rfl, rfl⟩ := Prod.mk.inj hsplit
      obtain ⟨c, tail', rfl, hdigit⟩ := unsigned?_head hnumber
      rw [Json5.scalar?_digit hdigit, unsigned?_relaxed hnumber hrest] at hloose
      exact (Option.some.inj hloose).symm

/-! ## Tokens -/

open Brackets

theorem skip?_relaxed {text rest : Text} (hskip : skip? text = some rest) :
    Json5.skip? text = some rest := by
  revert hskip
  fun_cases skip? text with
  | case5 => rintro ⟨⟩
  | _ =>
    rintro ⟨⟩
    rfl

theorem delimited_of_skip? {text rest : Text} (hskip : skip? text = some rest) :
    Delimited text := by
  revert hskip
  fun_cases skip? text with
  | case5 => rintro ⟨⟩
  | _ =>
    rintro - _ ⟨⟩
    decide

theorem punctuation?_translate {σ τ : Type} (f : σ → τ) (c : Char) :
    (punctuation? c : Option (Token τ)) = (punctuation? c).map (Token.translate f) := by
  unfold punctuation?
  split <;> rfl

/-- A punctuation mark is a delimiter, and no blank of JSON5. -/
theorem delimiter_of_punctuation? {σ : Type} {c : Char} {token : Token σ}
    (hpunctuation : punctuation? c = some token) (rest : Text) :
    c ∈ delimiters ∧ Json5.skip? (c :: rest) = none := by
  revert hpunctuation
  fun_cases punctuation? c with
  | case7 => rintro ⟨⟩
  | _ => exact fun _ => ⟨by decide, rfl⟩

theorem skip?_of_scalar? {text : Text} {found : Scalar × Text}
    (hscalar : scalar? text = some found) : Json5.skip? text = none := by
  revert hscalar
  fun_cases scalar? text with
  | case6 =>
      intro hscalar
      obtain ⟨_, hnumber, _⟩ := Option.map_eq_some_iff.1 hscalar
      obtain ⟨c, tail, rfl, hdigit⟩ := unsigned?_head hnumber
      exact Json5.skip?_digit hdigit tail
  | _ => exact fun _ => rfl

/-- A text of tokens the first of which is no scalar begins with a delimiter. -/
theorem delimited_of_tokensWithin {steps : Nat} {rest : Text} {tokens : List (Token Scalar)}
    (htokens : tokensWithin skip? scalar? steps rest = some tokens)
    (hfirst : ∀ token ∈ tokens.head?, token.isScalar = false) : Delimited rest := by
  revert htokens
  fun_cases tokensWithin skip? scalar? steps rest with
  | case1 => exact fun _ _ => nofun
  | case2 => rintro ⟨⟩
  | case3 steps c tail rest hskip => exact fun _ => delimited_of_skip? hskip
  | case4 steps c tail hskip token hpunctuation =>
      rintro _ _ ⟨⟩
      exact (delimiter_of_punctuation? hpunctuation tail).1
  | case5 steps c tail hskip hpunctuation value rest hscalar =>
      intro htokens
      obtain ⟨later, _, rfl⟩ := Option.map_eq_some_iff.1 htokens
      cases hfirst _ rfl
  | case6 => rintro ⟨⟩

/-- Separated tokens that both notations read are the same in both. -/
theorem tokensWithin_relaxed {steps : Nat} {text : Text} {tokens : List (Token Scalar)}
    {loose : List (Token Json5.Scalar)}
    (hstrict : tokensWithin skip? scalar? steps text = some tokens)
    (hseparated : Token.Separated tokens)
    (hloose : tokensWithin Json5.skip? Json5.scalar? steps text = some loose) :
    loose = tokens.map (Token.translate Scalar.relaxed) := by
  fun_induction tokensWithin skip? scalar? steps text generalizing tokens loose with
  | case1 =>
      rw [tokensWithin] at hloose
      obtain rfl := Option.some.inj hstrict
      exact (Option.some.inj hloose).symm
  | case2 => cases hstrict
  | case3 steps c tail rest hskip ih =>
      rw [tokensWithin, skip?_relaxed hskip] at hloose
      exact ih hstrict hseparated hloose
  | case4 steps c tail hskip token hpunctuation ih =>
      obtain ⟨later, hlater, rfl⟩ := Option.map_eq_some_iff.1 hstrict
      rw [tokensWithin, (delimiter_of_punctuation? hpunctuation tail).2,
        punctuation?_translate Scalar.relaxed, hpunctuation] at hloose
      obtain ⟨found, hfound, rfl⟩ := Option.map_eq_some_iff.1 hloose
      rw [ih hlater hseparated.tail hfound, List.map_cons]
  | case5 steps c tail hskip hpunctuation value rest hscalar ih =>
      obtain ⟨later, hlater, rfl⟩ := Option.map_eq_some_iff.1 hstrict
      -- the grammar lets no scalar follow, so the scalar ends before a delimiter
      have hrest : Delimited rest := delimited_of_tokensWithin hlater fun token htoken =>
        (List.isChain_cons.1 hseparated).1 token htoken rfl
      rw [tokensWithin, skip?_of_scalar? hscalar,
        punctuation?_translate Scalar.relaxed, hpunctuation] at hloose
      cases hfound : Json5.scalar? (c :: tail) with
      | none =>
          rw [hfound] at hloose
          cases hloose
      | some found =>
          obtain rfl := scalar?_relaxed hscalar hrest hfound
          rw [hfound] at hloose
          obtain ⟨last, hlast, rfl⟩ := Option.map_eq_some_iff.1 hloose
          rw [ih hlater hseparated.tail hlast, List.map_cons]
          rfl
  | case6 => cases hstrict

/-! ## Documents -/

theorem grammar_widens : grammar.Widens Scalar.relaxed Json5.grammar where
  trailingComma _ := rfl
  isKey value hkey := by
    cases value with
    | string pieces => rfl
    | _ => cases hkey
  isValue value _ := by
    cases value with
    | flag value => cases value <;> decide
    | null => decide
    | _ => rfl

/-- A document that both notations read is the same in both, in the scalars of each. -/
theorem parse?_relaxed {text : Text} {root : Node Scalar} {loose : Node Json5.Scalar}
    (hstrict : parse? text = some root) (hloose : Json5.parse? text = some loose) :
    loose = root.translate Scalar.relaxed := by
  obtain ⟨tokens, htokens, hroot⟩ := Option.bind_eq_some_iff.1 hstrict
  obtain ⟨tokens', htokens', hroot'⟩ := Option.bind_eq_some_iff.1 hloose
  obtain rfl := tokensWithin_relaxed htokens (separated_of_parse? hroot) htokens'
  rw [parse?_translate grammar_widens hroot] at hroot'
  exact (Option.some.inj hroot').symm

end Transcript.Json
