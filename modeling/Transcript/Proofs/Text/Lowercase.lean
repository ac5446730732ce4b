import Mathlib.Data.List.Basic
import Transcript.Text.Lowercase

/-!
# Lowercase inside a longer text

Every character is put in lowercase by itself, but for the capital sigma, which looks at its nearest
neighbours on both sides. So the lowercase form of a text stands in the lowercase form of a longer
text, unless one of its sigmas has a neighbour outside that makes it final, or no longer final.
A text whose sigmas all have the neighbours that decide inside it is put in lowercase alike
wherever it stands, and no other text is.
-/

namespace Transcript.Text

namespace Lowercase

/-! ## Sigmas and their neighbours -/

/-- The nearest character that is not passed over in the search for a cased neighbour. -/
def neighbour? (text : Text) : Option Char := (text.dropWhile isCaseIgnorable).head?

theorem neighbour?_append (left right : Text) :
    neighbour? (left ++ right) = (neighbour? left).or (neighbour? right) := by
  rw [neighbour?, neighbour?, neighbour?, List.dropWhile_append]
  cases left.dropWhile isCaseIgnorable <;> simp

theorem neighbour?_singleton {c : Char} (hseen : isCaseIgnorable c = false) :
    neighbour? [c] = some c := by
  simp [neighbour?, hseen]

theorem meetsCased_eq (text : Text) : meetsCased text = (neighbour? text).any isCased := by
  unfold meetsCased neighbour?
  split
  next hnone => simp [hnone]
  next hsome => simp [hsome]

/-- Whether the neighbours of a sigma tell how it is written, whatever stands beyond `before` and
`rest`. As in the scan for a final sigma, `before` is given from the nearest character outwards. -/
def decides (before rest : Text) : Bool :=
  match neighbour? before, neighbour? rest with
  | some _, some _ => true
  | some c, none => !isCased c
  | none, some c => isCased c
  | none, none => false

theorem sigma_append {before rest : Text} (hdecides : decides before rest = true)
    (front behind : Text) : sigma (before ++ front) (rest ++ behind) = sigma before rest := by
  simp only [sigma, meetsCased_eq, neighbour?_append]
  unfold decides at hdecides
  cases hbefore : neighbour? before <;> cases hrest : neighbour? rest <;>
    simp_all

/-- A sigma that its neighbours do not decide on is written in another way when the right
characters stand around. -/
theorem exists_sigma_ne {before rest : Text} (hopen : decides before rest = false) :
    ∃ cased : Bool, ∀ front behind c d, neighbour? front = some c → isCased c = true →
      neighbour? behind = some d → isCased d = cased →
      sigma (before ++ front) (rest ++ behind) ≠ sigma before rest := by
  simp only [sigma, meetsCased_eq, neighbour?_append]
  unfold decides at hopen
  cases hbefore : neighbour? before with
  | none =>
      -- A cased letter in front makes the sigma final.
      refine ⟨false, ?_⟩
      intro front behind c d hfront hc hbehind hd
      cases hrest : neighbour? rest <;> simp_all
  | some b =>
      -- A cased letter behind makes it one that is not final.
      refine ⟨true, ?_⟩
      intro front behind c d hfront hc hbehind hd
      cases hrest : neighbour? rest <;> simp_all

end Lowercase

open Lowercase

/-! ## All sigmas of a text -/

/-- A relation holds between the two sides of every capital sigma of the text, the side before it
given from the nearest character outwards. -/
def EverySigma (p : Text → Text → Prop) (text : Text) : Prop :=
  ∀ front rest, text = front ++ 'Σ' :: rest → p front.reverse rest

theorem everySigma_nil (p : Text → Text → Prop) : EverySigma p [] := by
  intro front rest heq
  simp at heq

theorem everySigma_cons {p : Text → Text → Prop} {c : Char} {text : Text} :
    EverySigma p (c :: text) ↔
      (c = 'Σ' → p [] text) ∧ EverySigma (fun before rest => p (before ++ [c]) rest) text := by
  constructor
  · intro hevery
    refine ⟨?_, ?_⟩
    · rintro rfl
      exact hevery [] text rfl
    · intro front rest heq
      have hside := hevery (c :: front) rest (congrArg (c :: ·) heq)
      rwa [List.reverse_cons] at hside
  · rintro ⟨hfirst, hlater⟩ front rest heq
    cases front with
    | nil =>
        obtain ⟨rfl, rfl⟩ := List.cons.inj heq
        exact hfirst rfl
    | cons d more =>
        obtain ⟨rfl, hmore⟩ := List.cons.inj heq
        rw [List.reverse_cons]
        exact hlater more rest hmore

/-- Every capital sigma of the text is written alike in the text alone and between two others. -/
def KeepsSigmas (text front behind : Text) : Prop :=
  EverySigma (fun before rest =>
    sigma (before ++ front.reverse) (rest ++ behind) = sigma before rest) text

/-- The text itself decides how each of its capital sigmas is written. -/
def SettlesSigmas (text : Text) : Prop :=
  EverySigma (fun before rest => decides before rest = true) text

theorem SettlesSigmas.keepsSigmas {text : Text} (hsettles : text.SettlesSigmas)
    (front behind : Text) : text.KeepsSigmas front behind := by
  intro before rest heq
  exact sigma_append (hsettles before rest heq) front.reverse behind

namespace Lowercase

/-! ## Between two texts -/

/-- The lowercase form of a text that stands after `before` and in front of `behind`. -/
def between (before behind : Text) : Text → Text
  | [] => []
  | c :: rest =>
    (if c = 'Σ' then [sigma before (rest ++ behind)] else letter c) ++
      between (c :: before) behind rest

theorem after_append (before text behind : Text) :
    after before (text ++ behind) =
      between before behind text ++ after (text.reverse ++ before) behind := by
  induction text generalizing before with
  | nil => rfl
  | cons c rest ih => simp [after, between, ih]

theorem length_between (before other behind text : Text) :
    (between before behind text).length = (after other text).length := by
  induction text generalizing before other with
  | nil => rfl
  | cons c rest ih =>
      rw [between, after, List.length_append, List.length_append, ih _ (c :: other)]
      split <;> rfl

/-- A text is put in lowercase as it is alone exactly if it keeps its sigmas. -/
theorem between_eq_after_iff {before front behind text : Text} :
    between (before ++ front) behind text = after before text ↔
      EverySigma (fun near rest =>
        sigma (near ++ (before ++ front)) (rest ++ behind) = sigma (near ++ before) rest) text := by
  induction text generalizing before with
  | nil => exact iff_of_true rfl (everySigma_nil _)
  | cons c rest ih =>
      have hlater := @ih (c :: before)
      rw [List.cons_append] at hlater
      have hmoved : EverySigma (fun near more =>
          sigma (near ++ [c] ++ (before ++ front)) (more ++ behind) =
            sigma (near ++ [c] ++ before) more) rest ↔
          between (c :: (before ++ front)) behind rest = after (c :: before) rest := by
        rw [hlater]
        simp only [List.append_assoc, List.singleton_append]
      rw [between, after, everySigma_cons, hmoved]
      by_cases hsigma : c = 'Σ'
      · simp [hsigma]
      · simp [hsigma]

/-! ## Bystanders -/

/-- Letters and digits that are seen by a sigma next to them, two with a case and two without. -/
def bystanders : List Char := ['a', 'b', '1', '2']

theorem mem_bystanders {c : Char} : c ∈ bystanders ↔ c = 'a' ∨ c = 'b' ∨ c = '1' ∨ c = '2' := by
  simp [bystanders]

theorem bystander_stays {c : Char} (hmem : c ∈ bystanders) :
    isCaseIgnorable c = false ∧ c ≠ 'Σ' ∧ letter c = [c] := by
  rcases mem_bystanders.mp hmem with rfl | rfl | rfl | rfl <;>
    exact ⟨by decide +kernel, by decide, rfl⟩

theorem exists_bystander (cased : Bool) (taken : Option Char) :
    ∃ c ∈ bystanders, isCased c = cased ∧ taken ≠ some c := by
  have hcased : isCased 'a' = true ∧ isCased 'b' = true := by decide
  have hdigit : isCased '1' = false ∧ isCased '2' = false := by decide +kernel
  cases cased with
  | true =>
      by_cases htaken : taken = some 'a'
      · exact ⟨'b', by simp [bystanders], hcased.2, by simp [htaken]⟩
      · exact ⟨'a', by simp [bystanders], hcased.1, htaken⟩
  | false =>
      by_cases htaken : taken = some '1'
      · exact ⟨'2', by simp [bystanders], hdigit.2, by simp [htaken]⟩
      · exact ⟨'1', by simp [bystanders], hdigit.1, htaken⟩

theorem toLower_bystanders {c d : Char} (hc : c ∈ bystanders) (hd : d ∈ bystanders)
    (text : Text) : toLower (c :: (text ++ [d])) = c :: (between [c] [d] text ++ [d]) := by
  obtain ⟨_, hc, hcLetter⟩ := bystander_stays hc
  obtain ⟨_, hd, hdLetter⟩ := bystander_stays hd
  rw [toLower, after, if_neg hc, hcLetter, after_append, after, if_neg hd, hdLetter, after,
    List.append_nil, List.singleton_append]

end Lowercase

theorem between_eq_toLower_iff {front behind text : Text} :
    between front.reverse behind text = text.toLower ↔ text.KeepsSigmas front behind := by
  have hsame := @between_eq_after_iff [] front.reverse behind text
  simp only [List.nil_append, List.append_nil] at hsame
  exact hsame

/-- A text that keeps its sigmas is put in lowercase as it is alone. -/
theorem toLower_infix {front behind text : Text} (hkeeps : text.KeepsSigmas front behind) :
    text.toLower <:+: (front ++ text ++ behind).toLower := by
  have hsame := between_eq_toLower_iff.mpr hkeeps
  rw [List.append_assoc, toLower, toLower, after_append, List.append_nil, after_append, hsame]
  rw [← List.append_assoc]
  exact ⟨_, _, rfl⟩

/-- Another text of the same length does not hold the text, not even with a character more at
either end, when these are not the ends of the text. -/
theorem not_infix_of_ends {text other : Text} {c d : Char} (hlength : other.length = text.length)
    (hne : other ≠ text) (hfirst : text.head? ≠ some c) (hlast : text.getLast? ≠ some d) :
    ¬ text <:+: c :: (other ++ [d]) := by
  rintro ⟨left, right, heq⟩
  have htext : text ≠ [] := by
    rintro rfl
    exact hne (List.length_eq_zero_iff.mp hlength)
  obtain ⟨first, more, hcons⟩ := List.exists_cons_of_ne_nil htext
  have hlengths := congrArg List.length heq
  simp only [List.length_append, List.length_cons, List.length_nil] at hlengths
  match left, right with
  | [], _ =>
      rw [List.nil_append, hcons, List.cons_append] at heq
      rw [hcons] at hfirst
      exact hfirst (congrArg some (List.cons.inj heq).1)
  | _, [] =>
      have hends := congrArg List.getLast? heq
      rw [List.append_nil, List.getLast?_append_of_ne_nil _ htext, ← List.cons_append,
        List.getLast?_concat] at hends
      exact hlast hends
  | _ :: more, _ :: _ =>
      simp only [List.length_cons] at hlengths
      obtain rfl : more = [] := List.length_eq_zero_iff.mp (by omega)
      have hinner := (List.cons.inj heq).2
      exact hne (List.append_inj_left hinner hlength.symm).symm

/-- A text that does not settle its sigmas stands between two others whose lowercase form does not
hold that of the text. -/
theorem exists_toLower_not_infix {text : Text} (hopen : ¬ text.SettlesSigmas) :
    ∃ c ∈ bystanders, ∃ d ∈ bystanders,
      ¬ text.toLower <:+: toLower (c :: (text ++ [d])) := by
  simp only [SettlesSigmas, EverySigma, not_forall, Bool.not_eq_true] at hopen
  obtain ⟨before, rest, htext, hopen⟩ := hopen
  obtain ⟨cased, hsigma⟩ := exists_sigma_ne hopen
  obtain ⟨c, hc, hcased, hfirst⟩ := exists_bystander true text.toLower.head?
  obtain ⟨d, hd, hdCased, hlast⟩ := exists_bystander cased text.toLower.getLast?
  refine ⟨c, hc, d, hd, ?_⟩
  rw [toLower_bystanders hc hd]
  apply not_infix_of_ends (length_between [c] [] [d] text) _ hfirst hlast
  intro hsame
  have hkept := (@between_eq_toLower_iff [c] [d] text).mp hsame before rest htext
  exact hsigma [c] [d] c d (neighbour?_singleton (bystander_stays hc).1) hcased
    (neighbour?_singleton (bystander_stays hd).1) hdCased hkept

end Transcript.Text
