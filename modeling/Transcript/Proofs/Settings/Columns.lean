import Mathlib.Data.List.TakeWhile
import Transcript.Proofs.Text.Numeral
import Transcript.Terminal

/-!
# Options that can be used

The columns of the output are the first positive number among what five sources tell, and the
last source always tells one. With the length of a divider it is alike: zero counts as absent. So
no settings lead to a width of zero, or to dividers in every line.
-/

namespace Transcript

/-- What may tell the columns of the output. -/
inductive WidthSource where
  /-- The settings, whatever the terminal says. -/
  | forced
  /-- The environment. -/
  | environment
  /-- The terminal. -/
  | terminal
  /-- The settings, if nothing else tells. -/
  | fallback
  /-- The choice built in. -/
  | builtIn

/-- All sources, in the order in which they are heard. -/
def WidthSource.all : List WidthSource := [forced, environment, terminal, fallback, builtIn]

namespace Settings

variable (settings : Settings) (environment : Environment) (terminal : Option Terminal)

/-- A source tells a number, zero included. -/
def Tells : WidthSource → Nat → Prop
  | .forced, n => settings.columns = some n
  | .environment, n =>
    ∃ value, environment "COLUMNS".toList = some value ∧ value.trim.WritesSize n
  | .terminal, n => ∃ size, terminal.bind Terminal.size? = some size ∧ size.columns = n
  | .fallback, n => settings.defaultColumns = some n
  | .builtIn, n => n = 120

/-- The number a source tells, if it tells one. -/
def told? : WidthSource → Option Nat
  | .forced => settings.columns
  | .environment => (environment "COLUMNS".toList).bind (·.trim.size?)
  | .terminal => (terminal.bind Terminal.size?).map Terminal.columns
  | .fallback => settings.defaultColumns
  | .builtIn => some Options.defaultColumns

variable {settings environment terminal}

theorem told?_eq_some_iff {source : WidthSource} {n : Nat} :
    settings.told? environment terminal source = some n ↔
      settings.Tells environment terminal source n := by
  cases source with
  | forced => rfl
  | environment =>
      simp only [told?, Tells, Option.bind_eq_some_iff, Text.size?_eq_some_iff]
  | terminal => exact Option.map_eq_some_iff
  | fallback => rfl
  | builtIn => exact Option.some_inj.trans eq_comm

end Settings

theorem findSome?_cons_eq_or {α β : Type} (f : α → Option β) (a : α) (rest : List α) :
    (a :: rest).findSome? f = (f a).or (rest.findSome? f) := by
  rw [List.findSome?_cons]
  cases f a <;> rfl

theorem positive?_eq_some_iff {number : Option Nat} {n : Nat} :
    positive? number = some n ↔ number = some n ∧ 0 < n := by
  rw [positive?, Option.filter_eq_some_iff, decide_eq_true_iff]

theorem positive?_eq_none_iff {number : Option Nat} :
    positive? number = none ↔ ∀ n, number = some n → n = 0 := by
  simp only [positive?, Option.filter_eq_none_iff, decide_eq_true_iff, Nat.not_lt, Nat.le_zero]

/-- Dividers are long enough that one has to hold an equals sign. -/
theorem Heuristics.mem_of_isDivider {heuristics : Heuristics} (hlength : 1 ≤ heuristics.dividerLength)
    {line : Text} (hdivider : heuristics.isDivider line = true) : '=' ∈ line.trim := by
  have hrun : 0 < (line.trim.takeWhile (· = '=')).length :=
    Nat.lt_of_lt_of_le hlength (of_decide_eq_true hdivider)
  obtain ⟨c, hmem⟩ := List.exists_mem_of_length_pos hrun
  have hsign := List.mem_takeWhile_imp hmem
  rw [decide_eq_true_iff] at hsign
  exact hsign ▸ (List.takeWhile_sublist _).mem hmem

namespace Settings

variable (settings : Settings) (environment : Environment) (terminal : Option Terminal)

/-- The sources are heard one after the other, until one of them tells a positive number. -/
theorem findSome?_told? :
    WidthSource.all.findSome? (fun source => positive? (settings.told? environment terminal source))
      = some (settings.options environment terminal).columns := by
  let forced := positive? (settings.told? environment terminal .forced)
  let written := positive? (settings.told? environment terminal .environment)
  let detected := positive? (settings.told? environment terminal .terminal)
  let fallback := positive? (settings.told? environment terminal .fallback)
  have hsources : WidthSource.all.findSome? (fun source =>
      positive? (settings.told? environment terminal source)) =
        forced.or (written.or (detected.or (fallback.or (some Options.defaultColumns)))) := by
    simp only [WidthSource.all, findSome?_cons_eq_or, List.findSome?_nil, Option.or_none]
    rfl
  rw [hsources, Option.or_some, Option.or_some, Option.or_some, Option.or_some]
  change _ = some (((forced.or written).or detected).getD (fallback.getD Options.defaultColumns))
  rw [Option.getD_or, Option.getD_or]

theorem columns_eq_iff (n : Nat) :
    (settings.options environment terminal).columns = n ↔
      ∃ earlier source later, WidthSource.all = earlier ++ source :: later ∧
        settings.Tells environment terminal source n ∧ 0 < n ∧
          ∀ other ∈ earlier, ∀ m, settings.Tells environment terminal other m → m = 0 := by
  rw [← Option.some_inj, ← findSome?_told?, List.findSome?_eq_some_iff]
  simp only [positive?_eq_some_iff, positive?_eq_none_iff, told?_eq_some_iff, and_assoc]

theorem dividerLength_pos : 1 ≤ settings.heuristics.dividerLength := by
  change 1 ≤ (positive? settings.dividerLength).getD Heuristics.default.dividerLength
  cases hlength : positive? settings.dividerLength with
  | none => decide
  | some length => exact (positive?_eq_some_iff.mp hlength).2

/-- The columns are the first positive number that the settings, the environment, the terminal,
the settings again and the choice built in tell, in this order. So there is always a column, and a
divider always has a length: no settings make a divider of a line without an equals sign. -/
theorem options_usable :
    let options := settings.options environment terminal
    (∀ n, options.columns = n ↔
      ∃ earlier source later, WidthSource.all = earlier ++ source :: later ∧
        settings.Tells environment terminal source n ∧ 0 < n ∧
          ∀ other ∈ earlier, ∀ m, settings.Tells environment terminal other m → m = 0) ∧
      1 ≤ options.columns ∧ 1 ≤ options.heuristics.dividerLength ∧
      ∀ line, options.heuristics.isDivider line = true → '=' ∈ line.trim := by
  intro options
  have hcolumns := settings.columns_eq_iff environment terminal
  obtain ⟨_, _, _, _, _, hpos, _⟩ := (hcolumns options.columns).mp rfl
  have hlength : 1 ≤ options.heuristics.dividerLength := settings.dividerLength_pos
  exact ⟨hcolumns, hpos, hlength, fun _ => Heuristics.mem_of_isDivider hlength⟩

/-- The width in the settings is zero, and the number in the environment has a plus sign, zeros in
front and white space around it. It goes before the width of the terminal. -/
theorem options_usable_padded :
    let settings : Settings := { empty with columns := some 0, dividerLength := some 0 }
    let environment : Environment := fun name =>
      if name = "COLUMNS".toList then some "\u3000+0080\t".toList else none
    let terminal : Option Terminal := some ⟨100, 40⟩
    let options := settings.options environment terminal
    let line := Text.blanks 2 ++ List.replicate 10 '='
    settings.Tells environment terminal .environment 80 ∧ options.columns = 80 ∧
      1 ≤ options.heuristics.dividerLength ∧ options.heuristics.isDivider line = true ∧
      '=' ∈ line.trim := by
  intro settings environment terminal options line
  have htells : settings.Tells environment terminal .environment 80 :=
    ⟨_, rfl, ['+'], "0080".toList, by decide, .inr rfl, by decide,
      List.all_eq_true.mp (by decide), by decide, by decide⟩
  obtain ⟨hcolumns, -, hlength, hsign⟩ := settings.options_usable environment terminal
  have hforced : ∀ other ∈ [WidthSource.forced], ∀ m,
      settings.Tells environment terminal other m → m = 0 := by
    intro other hother m hm
    obtain rfl := List.mem_singleton.mp hother
    exact (Option.some.inj hm).symm
  have hdivider : options.heuristics.isDivider line = true := by decide
  exact ⟨htells, (hcolumns 80).mpr ⟨[.forced], .environment, _, rfl, htells, by decide, hforced⟩,
    hlength, hdivider, hsign line hdivider⟩

end Settings

end Transcript
