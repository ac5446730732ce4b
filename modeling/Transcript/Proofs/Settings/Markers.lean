import Transcript.Proofs.Section.Verdict
import Transcript.Proofs.Text.Lowercase
import Transcript.Settings

/-!
# Noise markers of the user

The noise markers of the settings are put in lowercase one by one, and a line is put in lowercase
as a whole. The two agree on every character but the capital sigma. A line that holds a marker in
the very spelling of the settings is noise if the sigmas of the marker are written in the line as
they are in the marker alone. That is so in every line for the markers that settle their sigmas,
among them all markers without one, and for no other marker.
-/

namespace Transcript

namespace Text

/-- A text that neither begins nor ends with white space is trimmed. -/
theorem trim_of_solid {c d : Char} (hc : isSpace c = false) (hd : isSpace d = false)
    (text : Text) : trim (c :: (text ++ [d])) = c :: (text ++ [d]) := by
  simp [trim, trimStart, trimEnd, hc, hd]

theorem isSpace_bystander {c : Char} (hmem : c ∈ Lowercase.bystanders) : isSpace c = false := by
  rcases Lowercase.mem_bystanders.mp hmem with rfl | rfl | rfl | rfl <;> rfl

end Text

namespace Settings

variable {settings : Settings} {markers : List Text} {marker line : Text}

theorem noiseMarkers_heuristics (hmarkers : settings.noiseMarkers = some markers) :
    settings.heuristics.noiseMarkers = markers.map Text.toLower := by
  rw [heuristics, hmarkers, Option.map_some, Option.getD_some]

theorem isNoise_eq_true_iff_of_markers (hmarkers : settings.noiseMarkers = some markers) :
    settings.heuristics.isNoise line = true ↔
      line.trim = [] ∨ ∃ marker ∈ markers, marker.toLower <:+: line.trim.toLower := by
  simp [Heuristics.isNoise_eq_true_iff, noiseMarkers_heuristics hmarkers]

theorem isNoise_of_keepsSigmas (hmarkers : settings.noiseMarkers = some markers)
    (hmem : marker ∈ markers) {front behind : Text} (hline : line.trim = front ++ marker ++ behind)
    (hkeeps : marker.KeepsSigmas front behind) : settings.heuristics.isNoise line = true := by
  rw [isNoise_eq_true_iff_of_markers hmarkers, hline]
  exact .inr ⟨marker, hmem, Text.toLower_infix hkeeps⟩

theorem exists_not_isNoise (hmarkers : settings.noiseMarkers = some markers)
    (hsole : ∀ other ∈ markers, other = marker) (hopen : ¬ marker.SettlesSigmas) :
    ∃ line : Text, marker <:+: line.trim ∧ settings.heuristics.isNoise line = false := by
  obtain ⟨c, hc, d, hd, hlost⟩ := Text.exists_toLower_not_infix hopen
  have htrim := Text.trim_of_solid (Text.isSpace_bystander hc) (Text.isSpace_bystander hd) marker
  refine ⟨c :: (marker ++ [d]), ?_, ?_⟩
  · rw [htrim]
    exact ⟨[c], [d], rfl⟩
  · rw [Bool.eq_false_iff, ne_eq, isNoise_eq_true_iff_of_markers hmarkers, htrim]
    rintro (hnil | ⟨other, hother, hholds⟩)
    · exact List.cons_ne_nil _ _ hnil
    · rw [hsole other hother] at hholds
      exact hlost hholds

/-- A line alone is an empty section exactly if it is noise. It is noise when it holds a marker of
the settings verbatim, and the sigmas of the marker are written in the line as in the marker alone.
A marker that settles its sigmas makes noise of every line that holds it. One that does not is
held by a line that is not noise, unless another marker matches that line. -/
theorem isNoise_of_verbatim (settings : Settings) {markers : List Text}
    (hmarkers : settings.noiseMarkers = some markers) :
    (1 ≤ settings.heuristics.window → ∀ line,
        settings.heuristics.isEmptyFrom [line] 0 = settings.heuristics.isNoise line) ∧
      ∀ marker ∈ markers,
        (∀ line front behind, line.trim = front ++ marker ++ behind →
          marker.KeepsSigmas front behind → settings.heuristics.isNoise line = true) ∧
        (marker.SettlesSigmas → ∀ line : Text, marker <:+: line.trim →
          settings.heuristics.isNoise line = true) ∧
        (¬ marker.SettlesSigmas → (∀ other ∈ markers, other = marker) →
          ∃ line : Text, marker <:+: line.trim ∧ settings.heuristics.isNoise line = false) := by
  refine ⟨Heuristics.isEmptyFrom_singleton, ?_⟩
  intro marker hmem
  refine ⟨?_, ?_, ?_⟩
  · intro line front behind hline hkeeps
    exact isNoise_of_keepsSigmas hmarkers hmem hline hkeeps
  · rintro hsettles line ⟨front, behind, hline⟩
    exact isNoise_of_keepsSigmas hmarkers hmem hline.symm (hsettles.keepsSigmas front behind)
  · intro hopen hsole
    exact exists_not_isNoise hmarkers hsole hopen

/-- Settings with a single noise marker. -/
def ofMarker (marker : Text) : Settings := { empty with noiseMarkers := some [marker] }

/-- A marker with a final sigma and one that is not, both settled, and a lone sigma, which is not. -/
theorem isNoise_of_verbatim_sigmas :
    let settled : Text := ['Σ', 'Ι', 'Σ', '!']
    let line : Text := [' ', 'x', 'Σ', 'Ι', 'Σ', '!', 'y']
    1 ≤ (ofMarker settled).heuristics.window ∧ settled.SettlesSigmas ∧ settled <:+: line.trim ∧
      (ofMarker settled).heuristics.isEmptyFrom [line] 0 = true ∧
      ∃ other : Text, ['Σ'] <:+: other.trim ∧ (ofMarker ['Σ']).heuristics.isNoise other = false := by
  intro settled line
  have hsettles : settled.SettlesSigmas := by
    simp only [settled, Text.SettlesSigmas, Text.everySigma_cons, Text.everySigma_nil]
    decide +kernel
  have hinfix : settled <:+: line.trim := ⟨['x'], ['y'], by decide⟩
  obtain ⟨hsingle, hmarker⟩ := isNoise_of_verbatim (ofMarker settled) rfl
  obtain ⟨_, hnoise, _⟩ := hmarker settled List.mem_cons_self
  have hopen : ¬ Text.SettlesSigmas ['Σ'] := by
    simp only [Text.SettlesSigmas, Text.everySigma_cons, Text.everySigma_nil]
    decide +kernel
  obtain ⟨_, hlone⟩ := isNoise_of_verbatim (ofMarker ['Σ']) rfl
  obtain ⟨_, _, hlost⟩ := hlone ['Σ'] List.mem_cons_self
  have hwindow : 1 ≤ (ofMarker settled).heuristics.window := by decide
  exact ⟨hwindow, hsettles, hinfix, (hsingle hwindow line).trans (hnoise hsettles line hinfix),
    hlost hopen fun _ hother => List.mem_singleton.mp hother⟩

/-- A line that holds the marker `Σ` as it is spelled in the settings, at the end of a word, is
counted as content. -/
theorem finalSigma_not_noise :
    ¬ ∀ (settings : Settings) (markers : List Text), settings.noiseMarkers = some markers →
      1 ≤ settings.heuristics.window → ∀ marker ∈ markers, ∀ line : Text, marker <:+: line.trim →
        settings.heuristics.isEmptyFrom [line] 0 = true := by
  intro hevery
  have hempty := hevery (ofMarker ['Σ']) [['Σ']] rfl (by decide) ['Σ'] List.mem_cons_self ['Α', 'Σ']
    ⟨['Α'], [], by decide⟩
  have hcontent : (ofMarker ['Σ']).heuristics.isEmptyFrom [['Α', 'Σ']] 0 = false := by
    decide +kernel
  exact Bool.false_ne_true (hcontent.symm.trans hempty)

end Settings

end Transcript
