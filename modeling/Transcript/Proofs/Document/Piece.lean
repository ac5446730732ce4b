import Transcript.Document.Json5

/-!
# Pairs of surrogates

JSON5 and UTF-16 join a pair of surrogates to the same character if its plane is odd. A pair of
an even plane gives JSON5 a character of the plane below.
-/

namespace Transcript.Piece

/-- The plane of the characters that a leading surrogate begins. -/
def plane (lead : Nat) : Nat := (lead - 0xD800) / 0x40 + 1

/-- Whether JSON5 joins the piece to the one after it as UTF-16 does. Only the escape of a leading
surrogate can keep it from that. -/
def joinsAlike : Piece → Bool
  | .char _ => true
  | .unit code => !isLead code || plane code % 2 = 1

theorem joinsAlike_of_not_isLead {code : Nat} (hlead : ¬isLead code = true) :
    joinsAlike (.unit code) = true := by
  rw [joinsAlike, eq_false_of_ne_true hlead]
  rfl

theorem joinsAlike_iff_of_isLead {code : Nat} (hlead : isLead code = true) :
    joinsAlike (.unit code) = true ↔ plane code % 2 = 1 := by
  rw [joinsAlike, hlead, Bool.not_true, Bool.false_or, decide_eq_true_eq]

theorem not_isLead_of_isTrail {code : Nat} (htrail : isTrail code = true) :
    ¬isLead code = true := by
  simp only [isLead, isTrail, Bool.and_eq_true, decide_eq_true_eq] at htrail ⊢
  omega

/-! ## Pairs -/

/-- The bits of the two surrogates do not overlap, except in the one that tells an odd plane from
an even one. -/
theorem json5_pair_eq_or {lead trail : Nat} (htrail : trail - 0xDC00 < 0x400) :
    Json5.pair lead trail = ((lead - 0xD800) ||| 0x40) * 0x400 + (trail - 0xDC00) := by
  have hlead : (lead - 0xD800) * 0x400 = (lead - 0xD800) <<< 10 := (Nat.shiftLeft_eq _ 10).symm
  have hoffset : trail - 0xDC00 + 0x10000 = 0x40 <<< 10 ||| (trail - 0xDC00) := by
    rw [← Nat.shiftLeft_add_eq_or_of_lt htrail]
    omega
  rw [Json5.pair, hlead, hoffset, ← Nat.or_assoc, ← Nat.shiftLeft_or_distrib,
    ← Nat.shiftLeft_add_eq_or_of_lt htrail, Nat.shiftLeft_eq]

theorem or_plane_bit : ∀ n < 0x400, n ||| 0x40 = if n / 0x40 % 2 = 0 then n + 0x40 else n := by
  decide +kernel

theorem json5_pair_add {lead trail : Nat} (hlead : isLead lead = true)
    (htrail : isTrail trail = true) :
    Json5.pair lead trail + (if plane lead % 2 = 1 then 0 else 0x10000) = utf16Pair lead trail := by
  simp only [isLead, isTrail, Bool.and_eq_true, decide_eq_true_eq] at hlead htrail
  rw [json5_pair_eq_or (by omega), or_plane_bit _ (by omega), plane, utf16Pair]
  split <;> split <;> omega

theorem json5_pair_eq_iff {lead trail : Nat} (hlead : isLead lead = true)
    (htrail : isTrail trail = true) :
    Json5.pair lead trail = utf16Pair lead trail ↔ plane lead % 2 = 1 := by
  rw [← json5_pair_add hlead htrail]
  split <;> omega

/-- A way to join surrogates that gives only characters beyond the basic plane. -/
def Astral (join : Nat → Nat → Nat) : Prop :=
  ∀ lead trail, isLead lead = true → isTrail trail = true →
    0x10000 ≤ join lead trail ∧ join lead trail < 0x110000

theorem Astral.toNat_ofNat {join : Nat → Nat → Nat} (hjoin : Astral join) {lead trail : Nat}
    (hlead : isLead lead = true) (htrail : isTrail trail = true) :
    (Char.ofNat (join lead trail)).toNat = join lead trail := by
  obtain ⟨hlow, hhigh⟩ := hjoin lead trail hlead htrail
  have hvalid : (join lead trail).isValidChar := Or.inr ⟨by omega, hhigh⟩
  rw [Char.ofNat, dif_pos hvalid]
  rfl

theorem astral_utf16Pair : Astral utf16Pair := by
  intro lead trail hlead htrail
  simp only [isLead, isTrail, Bool.and_eq_true, decide_eq_true_eq] at hlead htrail
  rw [utf16Pair]
  omega

theorem astral_json5_pair : Astral Json5.pair := by
  intro lead trail hlead htrail
  have hsum := json5_pair_add hlead htrail
  have hutf16 := astral_utf16Pair lead trail hlead htrail
  simp only [isLead, isTrail, Bool.and_eq_true, decide_eq_true_eq] at hlead htrail
  rw [json5_pair_eq_or (by omega)] at hsum ⊢
  have hbit := Nat.right_le_or (m := 0x40) (n := lead - 0xD800)
  omega

/-! ## Texts -/

section

variable (join : Nat → Nat → Nat)

theorem text?_char (c : Char) (rest : List Piece) :
    text? join (.char c :: rest) = (text? join rest).map (c :: ·) := by
  rw [text?]

theorem text?_pair {lead trail : Nat} (hlead : isLead lead = true) (htrail : isTrail trail = true)
    (rest : List Piece) :
    text? join (.unit lead :: .unit trail :: rest) =
      (text? join rest).map (Char.ofNat (join lead trail) :: ·) := by
  rw [text?, if_pos hlead, if_pos htrail]

theorem text?_unit {code : Nat} (hlead : ¬isLead code = true) (htrail : ¬isTrail code = true)
    (rest : List Piece) :
    text? join (.unit code :: rest) = (text? join rest).map (Char.ofNat code :: ·) := by
  have hneither : ¬(isLead code || isTrail code) = true := fun h =>
    (Bool.or_eq_true_iff.1 h).elim hlead htrail
  cases rest with
  | nil => exact if_neg hneither
  | cons piece rest =>
      cases piece with
      | char c => exact if_neg hneither
      | unit trail => exact (if_neg hlead).trans (if_neg htrail)

end

/-- A text in the basic plane does not depend on how surrogates are joined. -/
theorem text?_eq_of_basic {join other : Nat → Nat → Nat} (hjoin : Astral join)
    {pieces : List Piece} {text found : Text} (htext : text? join pieces = some text)
    (hfound : text? other pieces = some found) (hbasic : ∀ c ∈ text, c.toNat < 0x10000) :
    found = text := by
  fun_induction text? join pieces generalizing text found with
  | case1 => exact Option.some.inj (hfound.symm.trans htext)
  | case2 c rest ih =>
      rw [text?_char] at hfound
      obtain ⟨tail, htail, rfl⟩ := Option.map_eq_some_iff.1 htext
      obtain ⟨tail', htail', rfl⟩ := Option.map_eq_some_iff.1 hfound
      rw [ih htail htail' fun d hd => hbasic d (List.mem_cons_of_mem c hd)]
  | case3 lead trail rest hlead htrail ih =>
      obtain ⟨tail, htail, rfl⟩ := Option.map_eq_some_iff.1 htext
      have hlow := (hjoin lead trail hlead htrail).1
      have hhigh := hbasic _ List.mem_cons_self
      rw [hjoin.toNat_ofNat hlead htrail] at hhigh
      omega
  | case6 code trail rest hlead htrail ih =>
      rw [text?_unit _ hlead htrail] at hfound
      obtain ⟨tail, htail, rfl⟩ := Option.map_eq_some_iff.1 htext
      obtain ⟨tail', htail', rfl⟩ := Option.map_eq_some_iff.1 hfound
      rw [ih htail htail' fun d hd => hbasic d (List.mem_cons_of_mem _ hd)]
  | case8 code rest hsingle hneither ih =>
      rw [Bool.or_eq_true_iff, not_or] at hneither
      rw [text?_unit _ hneither.1 hneither.2] at hfound
      obtain ⟨tail, htail, rfl⟩ := Option.map_eq_some_iff.1 htext
      obtain ⟨tail', htail', rfl⟩ := Option.map_eq_some_iff.1 hfound
      rw [ih htail htail' fun d hd => hbasic d (List.mem_cons_of_mem _ hd)]
  | _ => cases htext

theorem ofNat_pair_eq_iff {lead trail : Nat} (hlead : isLead lead = true)
    (htrail : isTrail trail = true) :
    Char.ofNat (Json5.pair lead trail) = Char.ofNat (utf16Pair lead trail) ↔
      joinsAlike (.unit lead) = true := by
  rw [joinsAlike_iff_of_isLead hlead, ← json5_pair_eq_iff hlead htrail]
  refine ⟨fun heq => ?_, congrArg Char.ofNat⟩
  rw [← astral_json5_pair.toNat_ofNat hlead htrail, heq,
    astral_utf16Pair.toNat_ofNat hlead htrail]

theorem cons_eq_cons_iff {c : Char} {text found : Text} {first : Piece} {rest : List Piece}
    (hfirst : first.joinsAlike = true)
    (hrest : found = text ↔ ∀ piece ∈ rest, piece.joinsAlike = true) :
    c :: found = c :: text ↔ ∀ piece ∈ first :: rest, piece.joinsAlike = true := by
  rw [List.cons.injEq, hrest, List.forall_mem_cons]
  exact and_congr_left' (iff_of_true rfl hfirst)

/-- JSON5 and UTF-16 understand the pieces alike if and only if no pair is of an even plane. -/
theorem text?_json5_eq_iff {pieces : List Piece} {text found : Text}
    (htext : text? utf16Pair pieces = some text) (hfound : text? Json5.pair pieces = some found) :
    found = text ↔ ∀ piece ∈ pieces, piece.joinsAlike = true := by
  fun_induction text? utf16Pair pieces generalizing text found with
  | case1 =>
      obtain rfl := Option.some.inj (hfound.symm.trans htext)
      exact ⟨fun _ => nofun, fun _ => rfl⟩
  | case2 c rest ih =>
      rw [text?_char] at hfound
      obtain ⟨tail, htail, rfl⟩ := Option.map_eq_some_iff.1 htext
      obtain ⟨tail', htail', rfl⟩ := Option.map_eq_some_iff.1 hfound
      exact cons_eq_cons_iff rfl (ih htail htail')
  | case3 lead trail rest hlead htrail ih =>
      rw [text?_pair _ hlead htrail] at hfound
      obtain ⟨tail, htail, rfl⟩ := Option.map_eq_some_iff.1 htext
      obtain ⟨tail', htail', rfl⟩ := Option.map_eq_some_iff.1 hfound
      have htrailAlike := joinsAlike_of_not_isLead (not_isLead_of_isTrail htrail)
      rw [List.cons.injEq, ih htail htail', ofNat_pair_eq_iff hlead htrail, List.forall_mem_cons,
        List.forall_mem_cons]
      exact and_congr_right' (and_iff_right htrailAlike).symm
  | case6 code trail rest hlead htrail ih =>
      rw [text?_unit _ hlead htrail] at hfound
      obtain ⟨tail, htail, rfl⟩ := Option.map_eq_some_iff.1 htext
      obtain ⟨tail', htail', rfl⟩ := Option.map_eq_some_iff.1 hfound
      exact cons_eq_cons_iff (joinsAlike_of_not_isLead hlead) (ih htail htail')
  | case8 code rest hsingle hneither ih =>
      rw [Bool.or_eq_true_iff, not_or] at hneither
      rw [text?_unit _ hneither.1 hneither.2] at hfound
      obtain ⟨tail, htail, rfl⟩ := Option.map_eq_some_iff.1 htext
      obtain ⟨tail', htail', rfl⟩ := Option.map_eq_some_iff.1 hfound
      exact cons_eq_cons_iff (joinsAlike_of_not_isLead hneither.1) (ih htail htail')
  | _ => cases htext

end Transcript.Piece
