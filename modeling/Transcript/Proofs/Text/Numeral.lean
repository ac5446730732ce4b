import Mathlib.Data.List.Induction
import Mathlib.Data.Nat.Digits.Defs
import Transcript.Text.Number

/-!
# Numerals

A text is read as a size exactly if it writes one: after a plus sign, or without one, stand
decimal digits, at least one of them and nothing else, and their number fits in 64 bits.
-/

namespace Transcript.Text

/-! ## Digits -/

/-- What holds of the ten digits holds of every digit. -/
theorem forall_isDigit {P : Char → Prop} (hdigits : ∀ n < 10, P (Char.ofNat (48 + n))) {c : Char}
    (hdigit : isDigit c = true) : P c := by
  obtain ⟨hlow, hhigh⟩ := Bool.and_eq_true_iff.1 hdigit
  have hlow : 48 ≤ c.toNat := of_decide_eq_true hlow
  have hhigh : c.toNat ≤ 57 := of_decide_eq_true hhigh
  have hc := hdigits (c.toNat - 48) (by omega)
  rwa [Nat.add_sub_cancel' hlow, Char.ofNat_toNat] at hc

theorem isDigit_of_isDigitOf_ten {c : Char} (hdigit : isDigitOf 10 c = true) :
    isDigit c = true := by
  have hvalue : digitValue c < 10 := of_decide_eq_true hdigit
  rw [digitValue] at hvalue
  split at hvalue
  next hc => exact hc
  next =>
    split at hvalue
    next => omega
    next => split at hvalue <;> omega

theorem isDigitOf_ten (c : Char) : isDigitOf 10 c = true ↔ isDigit c = true := by
  refine ⟨isDigit_of_isDigitOf_ten, ?_⟩
  exact forall_isDigit (P := fun c => isDigitOf 10 c = true) (by decide)

theorem digitValue_of_isDigit {c : Char} (hdigit : isDigit c = true) :
    digitValue c = c.toNat - '0'.toNat := if_pos hdigit

/-- Digits are read from the highest on, and their number counts from the lowest. -/
theorem digitsValue_eq_ofDigits (base : Nat) (digits : Text) :
    digitsValue base digits = Nat.ofDigits base (digits.reverse.map digitValue) := by
  induction digits using List.reverseRecOn with
  | nil => rfl
  | append_singleton front c ih =>
      rw [digitsValue, List.foldl_append]
      change digitsValue base front * base + digitValue c = _
      rw [ih, List.reverse_append, List.reverse_singleton, List.singleton_append, List.map_cons,
        Nat.ofDigits_cons, Nat.add_comm, Nat.mul_comm]

/-! ## Sizes -/

variable {text digits : Text} {n : Nat}

/-- A text writes a size in decimal digits, which a plus sign may precede. -/
def WritesSize (text : Text) (n : Nat) : Prop :=
  ∃ sign digits, text = sign ++ digits ∧ (sign = [] ∨ sign = ['+']) ∧ digits ≠ [] ∧
    (∀ c ∈ digits, isDigit c = true) ∧
    Nat.ofDigits 10 (digits.reverse.map fun c => c.toNat - '0'.toNat) = n ∧ n < 2 ^ 64

theorem decimal_eq_some_iff :
    numeral? 10 digits = some n ↔ digits ≠ [] ∧ (∀ c ∈ digits, isDigit c = true) ∧
      Nat.ofDigits 10 (digits.reverse.map fun c => c.toNat - '0'.toNat) = n := by
  have hvalue (hdigits : ∀ c ∈ digits, isDigit c = true) :
      digits.reverse.map digitValue = digits.reverse.map fun c => c.toNat - '0'.toNat :=
    List.map_congr_left fun c hmem => digitValue_of_isDigit (hdigits c (List.mem_reverse.mp hmem))
  constructor
  · intro hread
    obtain ⟨hshape, hn⟩ := Option.ite_none_left_eq_some.mp hread
    simp only [Bool.or_eq_true, List.isEmpty_iff, Bool.not_eq_true', not_or, Bool.not_eq_false,
      List.all_eq_true, isDigitOf_ten] at hshape
    rw [digitsValue_eq_ofDigits, hvalue hshape.2] at hn
    exact ⟨hshape.1, hshape.2, Option.some.inj hn⟩
  · rintro ⟨hne, hdigits, hn⟩
    refine Option.ite_none_left_eq_some.mpr ⟨?_, ?_⟩
    · simp only [Bool.or_eq_true, List.isEmpty_iff, Bool.not_eq_true', not_or, Bool.not_eq_false,
        List.all_eq_true, isDigitOf_ten]
      exact ⟨hne, hdigits⟩
    · rw [digitsValue_eq_ofDigits, hvalue hdigits, hn]

theorem le_maxSize_iff : n ≤ maxSize ↔ n < 2 ^ 64 := by
  have hmax : maxSize = 2 ^ 64 - 1 := rfl
  omega

theorem size?_plus (digits : Text) :
    size? ('+' :: digits) = (numeral? 10 digits).filter (· ≤ maxSize) := rfl

theorem size?_of_head_ne (hhead : text.head? ≠ some '+') :
    size? text = (numeral? 10 text).filter (· ≤ maxSize) := by
  unfold size?
  split
  · exact absurd rfl hhead
  · rfl

/-- Reading a size succeeds on the texts that write one. -/
theorem size?_eq_some_iff : text.size? = some n ↔ text.WritesSize n := by
  have hfilter (digits : Text) :
      (numeral? 10 digits).filter (· ≤ maxSize) = some n ↔
        numeral? 10 digits = some n ∧ n < 2 ^ 64 := by
    rw [Option.filter_eq_some_iff, decide_eq_true_iff, le_maxSize_iff]
  constructor
  · intro hread
    by_cases hhead : text.head? = some '+'
    · obtain ⟨digits, rfl⟩ := List.head?_eq_some_iff.mp hhead
      rw [size?_plus, hfilter, decimal_eq_some_iff] at hread
      obtain ⟨⟨hne, hdigits, hn⟩, hfits⟩ := hread
      exact ⟨['+'], digits, rfl, .inr rfl, hne, hdigits, hn, hfits⟩
    · rw [size?_of_head_ne hhead, hfilter, decimal_eq_some_iff] at hread
      obtain ⟨⟨hne, hdigits, hn⟩, hfits⟩ := hread
      exact ⟨[], text, rfl, .inl rfl, hne, hdigits, hn, hfits⟩
  · rintro ⟨sign, digits, rfl, hsign, hne, hdigits, hn, hfits⟩
    have hnumeral := (hfilter digits).mpr ⟨decimal_eq_some_iff.mpr ⟨hne, hdigits, hn⟩, hfits⟩
    obtain rfl | rfl := hsign
    · rw [List.nil_append, size?_of_head_ne, hnumeral]
      -- A plus sign is no digit.
      intro hhead
      exact absurd (hdigits '+' (List.mem_of_mem_head? hhead)) (by decide)
    · exact hnumeral

end Transcript.Text
