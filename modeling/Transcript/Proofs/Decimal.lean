import Transcript.Decimal
import Transcript.Proofs.Text.Numeral

/-!
# Rounding whole numbers

A whole number is rounded to a multiple of a power of two, which is one as long as the number has no
more than 53 bits. It is kept exactly if it is such a multiple itself.
-/

namespace Transcript

namespace Binary

/-- The distance between neighbouring numbers with 53 significant bits at a whole number. -/
def gap (n : Nat) : Nat := Nat.pow 2 (n.log2 - 52)

/-- Whether a whole number has 53 significant bits at most. -/
def isExact (n : Nat) : Bool := n % gap n = 0

theorem gap_pos (n : Nat) : 0 < gap n := Nat.two_pow_pos _

theorem divideRounded_of_mod_eq_zero {n d : Nat} (hd : 0 < d) (hmod : n % d = 0) :
    divideRounded n d = n / d := by
  rw [divideRounded, hmod, if_pos (by omega)]

theorem divideRounded_one (n : Nat) : divideRounded n 1 = n := by
  rw [divideRounded_of_mod_eq_zero Nat.one_pos (Nat.mod_one n), Nat.div_one]

theorem shift_of_nonpos {exponent : Int} (hexponent : exponent ≤ 0) : shift exponent = 1 := by
  rw [shift, Int.toNat_of_nonpos hexponent]

theorem unitExponent_one {n : Nat} (hn : n ≠ 0) : unitExponent n 1 = (n.log2 : Int) - 52 := by
  have hshift : 1 * shift (n.log2 : Int) ≤ n * shift (-(n.log2 : Int)) := by
    have hneg : -(n.log2 : Int) ≤ 0 := by omega
    rw [shift_of_nonpos hneg, Nat.one_mul, Nat.mul_one]
    exact Nat.log2_self_le hn
  have hlog : Nat.log2 1 = 0 := by decide
  rw [unitExponent, hlog, Int.natCast_zero, Int.sub_zero]
  rw [if_pos hshift]
  omega

theorem floor_ofQuotient_one (n : Nat) :
    (ofQuotient n 1).floor = divideRounded n (gap n) * gap n := by
  obtain rfl | hpos := Nat.eq_zero_or_pos n
  · decide
  rw [ofQuotient, unitExponent_one (Nat.ne_of_gt hpos), floor]
  obtain hsmall | hlarge := Nat.le_total n.log2 52
  · have hgap : gap n = 1 := by rw [gap, Nat.sub_eq_zero_of_le hsmall, Nat.pow_eq, Nat.pow_zero]
    have hexponent : (n.log2 : Int) - 52 ≤ 0 := by omega
    rw [shift_of_nonpos hexponent, hgap, Nat.one_mul, divideRounded_one, divideRounded_one,
      Nat.mul_one, Nat.mul_one]
    exact Nat.mul_div_cancel n (Nat.two_pow_pos _)
  · have hgap : shift ((n.log2 : Int) - 52) = gap n := by
      rw [shift, gap]
      congr 1
      omega
    have hexponent : -((n.log2 : Int) - 52) ≤ 0 := by omega
    rw [shift_of_nonpos hexponent, hgap, Nat.mul_one, Nat.one_mul, Nat.div_one]

/-- A whole number is kept if and only if its binary digits suffice for it. -/
theorem floor_ofQuotient_one_eq_iff (n : Nat) :
    (ofQuotient n 1).floor = n ↔ isExact n = true := by
  rw [floor_ofQuotient_one, isExact, decide_eq_true_iff]
  constructor
  · intro heq
    have hmultiple : n = gap n * divideRounded n (gap n) := by rw [Nat.mul_comm, heq]
    exact Nat.mod_eq_zero_of_dvd ⟨_, hmultiple⟩
  · intro hmod
    rw [divideRounded_of_mod_eq_zero (gap_pos n) hmod]
    exact Nat.div_mul_cancel (Nat.dvd_of_mod_eq_zero hmod)

end Binary

namespace Decimal

theorem ofText_digits {digits : Text} (hdigits : ∀ c ∈ digits, Text.isDigit c = true) :
    ofText digits = ⟨Text.digitsValue 10 digits, 0⟩ := by
  have htake : digits.takeWhile Text.isDigit = digits := by
    have happend : (digits ++ []).takeWhile Text.isDigit = _ := List.takeWhile_append_of_pos hdigits
    rwa [List.append_nil, List.takeWhile_nil, List.append_nil] at happend
  have hdrop : digits.dropWhile Text.isDigit = [] := by
    have happend : (digits ++ []).dropWhile Text.isDigit = _ := List.dropWhile_append_of_pos hdigits
    rwa [List.append_nil, List.dropWhile_nil] at happend
  rw [ofText, htake, hdrop]
  change Decimal.mk (Text.digitsValue 10 (digits ++ [])) 0 = _
  rw [List.append_nil]

/-- A whole number in binary is the nearest one with 53 significant bits. -/
theorem floor_of_toBinary? {n : Nat} {binary : Binary}
    (hbinary : (Decimal.mk n 0).toBinary? = some binary) :
    binary.floor = (Binary.ofQuotient n 1).floor := by
  revert hbinary
  fun_cases toBinary? ⟨n, 0⟩ with
  | case1 size hsmall =>
      intro hbinary
      obtain rfl := Option.some.inj hbinary
      have hzero : n = 0 := by
        obtain hzero | hsize := Bool.or_eq_true_iff.1 hsmall
        · exact of_decide_eq_true hzero
        · have hsize : size < -400 := of_decide_eq_true hsize
          have hlength : size = 0 + ((Nat.toDigits 10 n).length : Int) := rfl
          omega
      rw [hzero]
      rfl
  | case2 => rintro ⟨⟩
  | case3 => rintro ⟨⟩
  | case4 size hsmall hlarge found hfits =>
      intro hbinary
      obtain rfl := Option.some.inj hbinary
      have hfound : found = Binary.ofQuotient (n * 1) 1 := rfl
      rw [hfound, Nat.mul_one]

end Decimal

end Transcript
