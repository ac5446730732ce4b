import Transcript.Segment

/-! # Settings

What a user may lay down. Every setting is optional, and one that is absent leaves the
built-in choice in force.
-/

namespace Transcript

/-- The settings of a user. -/
structure Settings where
  window : Option Nat
  dividerLength : Option Nat
  headerPrefix : Option Text
  indicators : Option (List Text)
  noiseMarkers : Option (List Text)
  /-- The columns to assume when nothing else tells the width. -/
  defaultColumns : Option Nat
  /-- The columns to use whatever the terminal says. -/
  columns : Option Nat
  color : Option Bool
  deriving DecidableEq

namespace Settings

/-- No setting at all. -/
def empty : Settings := ⟨none, none, none, none, none, none, none, none⟩

/-- The heuristics under the settings. A divider length of zero counts as absent, and
noise markers are put in lowercase. -/
def heuristics (settings : Settings) : Heuristics where
  window := settings.window.getD Heuristics.default.window
  dividerLength := (settings.dividerLength.filter (0 < ·)).getD Heuristics.default.dividerLength
  headerPrefix := settings.headerPrefix.getD Heuristics.default.headerPrefix
  indicators := settings.indicators.getD Heuristics.default.indicators
  noiseMarkers := (settings.noiseMarkers.map (·.map Text.toLower)).getD
    Heuristics.default.noiseMarkers

/-- The columns when nothing else tells the width. Zero counts as absent. -/
def fallbackColumns (settings : Settings) : Nat :=
  (settings.defaultColumns.filter (0 < ·)).getD Options.defaultColumns

end Settings

end Transcript
