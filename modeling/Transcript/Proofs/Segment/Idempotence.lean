import Mathlib.Data.List.DropRight
import Transcript.Proofs.Segment.Framing

/-!
# Formatting twice

Without colour, and when neither dividers nor headers are status lines, every line is printed by
itself. Each line printed is printed as it is when it is formatted again: it fits the
terminal, or it is a word alone, which is no status line, or a marker with a word pushed away
from it, which is wrapped to itself.
-/

namespace Transcript

/-- Heuristics under which neither dividers nor headers are status lines. -/
structure Heuristics.SparesStatusLines (heuristics : Heuristics) : Prop where
  dividerLength_pos : 1 ≤ heuristics.dividerLength
  headerPrefix_head : ∃ c ∈ heuristics.headerPrefix.head?,
    StatusLine.isSymbol c = false ∧ Text.isDigit c = false

/-! ## Dividers and headers -/

theorem Text.trim_prefix_trimStart (text : Text) : text.trim <+: text.trimStart :=
  List.rdropWhile_prefix isSpace text.trimStart

theorem StatusLine.parse?_of_prefix {line rest : Text} {c : Char}
    (hstart : c :: rest <+: line.trimStart) (hsymbol : isSymbol c = false)
    (hdigit : Text.isDigit c = false) : parse? line = none := by
  obtain ⟨tail, htrim⟩ := hstart
  have hsplit : splitMarker? line.trimStart = none := by
    rw [← htrim, List.cons_append, splitMarker?, if_neg (Bool.eq_false_iff.mp hsymbol),
      if_neg (Bool.eq_false_iff.mp hdigit)]
  rw [parse?, hsplit]

namespace Heuristics.SparesStatusLines

variable {heuristics : Heuristics} {line : Text}

theorem parse?_of_isDivider (hspares : heuristics.SparesStatusLines)
    (hdivider : heuristics.isDivider line = true) : StatusLine.parse? line = none := by
  have hrun : line.trim.takeWhile (· = '=') ≠ [] := by
    intro hnil
    have hlength := of_decide_eq_true hdivider
    rw [hnil] at hlength
    exact absurd (hspares.dividerLength_pos.trans hlength) (by decide)
  obtain ⟨c, rest, hcons⟩ := List.exists_cons_of_ne_nil hrun
  have hequals : c = '=' := by
    have hmem : c ∈ line.trim.takeWhile (· = '=') := hcons ▸ List.mem_cons_self
    simpa using List.mem_takeWhile_imp hmem
  have hstart : c :: rest <+: line.trimStart :=
    hcons ▸ (List.takeWhile_prefix _).trans line.trim_prefix_trimStart
  subst hequals
  exact StatusLine.parse?_of_prefix hstart (by decide) (by decide)

theorem parse?_of_isHeader (hspares : heuristics.SparesStatusLines)
    (hheader : heuristics.isHeader line = true) : StatusLine.parse? line = none := by
  obtain ⟨c, hhead, hsymbol, hdigit⟩ := hspares.headerPrefix_head
  obtain ⟨rest, hcons⟩ := List.head?_eq_some_iff.mp hhead
  have hstart := (List.isPrefixOf_iff_prefix.mp hheader).trans line.trim_prefix_trimStart
  rw [hcons] at hstart
  exact StatusLine.parse?_of_prefix hstart hsymbol hdigit

end Heuristics.SparesStatusLines

namespace Options

variable {options : Options}

theorem reflow_of_parse? {line : Text} (hparse : StatusLine.parse? line = none) :
    options.reflow line = [line] := by
  apply reflow_of_wrapped?
  rw [wrapped?, hparse, Option.bind_none]

/-- Without colour a dimmed pair is printed as its lines are by themselves. -/
theorem formatLines_eq_flatMap_reflow (hspares : options.heuristics.SparesStatusLines)
    (hcolor : options.color = false) (lines : List Text) :
    options.formatLines lines = lines.flatMap options.reflow := by
  induction lines using walk_induction options with
  | nil => rfl
  | line line rest hopens ih =>
      rw [formatLines_of_not_opensEmpty hopens, output_eq_reflow, ih, List.flatMap_cons]
  | dimmed divider header body hopens ih =>
      have hannounces : options.announcesEmpty divider header body = true := hopens
      simp only [announcesEmpty, Bool.and_eq_true] at hannounces
      have hplain (text : Text) : Decoration.dimIf options.color text = text := by
        rw [hcolor]
        rfl
      rw [formatLines_of_opensEmpty hopens, hplain, hplain, ih, List.flatMap_cons,
        List.flatMap_cons, reflow_of_parse? (hspares.parse?_of_isDivider hannounces.1.1),
        reflow_of_parse? (hspares.parse?_of_isHeader hannounces.1.2)]
      rfl

/-! ## Printed lines -/

theorem reflow_of_length_le {line : Text} (hfits : line.length ≤ options.columns) :
    options.reflow line = [line] := by
  apply reflow_of_fits
  intro status hparse
  obtain ⟨gap, hwritten⟩ := StatusLine.written_of_parse? hparse
  exact hwritten.length_render_le.trans hfits

theorem reflow_of_written {status : StatusLine} {gap line : Text}
    (hwritten : StatusLine.Written status gap line)
    (hwrap : status.wrap? options.columns = some [line]) : options.reflow line = [line] := by
  rw [reflow, wrapped?_of_written hwritten, hwrap, Option.getD_some]

theorem reflow_of_opens {status : StatusLine} {gap line part : Text}
    (hwritten : StatusLine.Written status gap line)
    (hopens : StatusLine.Opens status options.columns part) : options.reflow part = [part] := by
  cases hopens with
  | bare hempty hlong =>
      have hlead := hwritten.render
      rw [StatusLine.render, hempty, List.append_nil] at hlead
      exact reflow_of_written hlead (StatusLine.wrap?_of_bare hempty hlong)
  | packed _ hfits => exact reflow_of_length_le hfits
  | @pushed word hword hlong =>
      have hsolid := Text.isWord_of_mem_words hword
      have hpushed : StatusLine.Written ⟨status.indent, status.marker, word⟩
          (' ' :: Text.blanks status.indentWidth)
          (status.lead ++ (Text.blanks status.indentWidth ++ word)) :=
        { hwritten with
          line_eq := by simp [StatusLine.lead]
          gap_blank := Text.isBlank_blanks (status.indentWidth + 1)
          gap_ne_nil := List.cons_ne_nil _ _
          description_solid := hsolid.head_solid
          description_unbroken := hsolid.lineFeed_not_mem }
      exact reflow_of_written hpushed (StatusLine.wrap?_of_pushed hsolid hlong)

theorem reflow_of_continues {status : StatusLine} {part : Text}
    (hcontinues : StatusLine.Continues status options.columns part) :
    options.reflow part = [part] := by
  cases hcontinues with
  | packed _ hfits => exact reflow_of_length_le hfits
  | lone hword _ =>
      apply reflow_of_parse?
      exact StatusLine.parse?_append_word (Text.isBlank_blanks _) (Text.isWord_of_mem_words hword)

/-- A line that was printed is printed again as it is. -/
theorem reflow_of_mem_reflow {line printed : Text} (hprinted : printed ∈ options.reflow line) :
    options.reflow printed = [printed] := by
  rcases reflow_cases options line with ⟨_, hkept⟩ | ⟨status, gap, first, rest, hwritten, hparts,
    hopens, hcontinues⟩
  · obtain rfl : printed = line := List.mem_singleton.mp (hkept ▸ hprinted)
    exact hkept
  · rcases List.mem_cons.mp (hparts ▸ hprinted) with rfl | hrest
    · exact reflow_of_opens hwritten hopens
    · exact reflow_of_continues (hcontinues printed hrest)

theorem flatMap_reflow_reflow (line : Text) :
    (options.reflow line).flatMap options.reflow = options.reflow line :=
  calc (options.reflow line).flatMap options.reflow
      = (options.reflow line).flatMap fun printed => [printed] :=
        List.flatMap_congr fun _ hprinted => reflow_of_mem_reflow hprinted
    _ = options.reflow line := List.flatMap_singleton' _

/-- Formatting a formatted text changes nothing, without colour and when dividers and headers
are no status lines. -/
theorem formatText_formatText (columns : Nat) (heuristics : Heuristics)
    (hspares : heuristics.SparesStatusLines) (text : Text) :
    let options : Options := ⟨columns, false, heuristics⟩
    options.formatText (options.formatText text) = options.formatText text := by
  intro options
  have hlines : options.formatLines (options.formatLines text.splitLines) =
      options.formatLines text.splitLines := by
    rw [formatLines_eq_flatMap_reflow hspares rfl, formatLines_eq_flatMap_reflow hspares rfl,
      List.flatMap_assoc]
    exact List.flatMap_congr fun line _ => flatMap_reflow_reflow line
  rw [formatText, splitLines_formatText, hlines]
  rfl

/-- A pushed word, a continuation that reads as a status line, and a marker alone. -/
theorem formatText_formatText_default :
    Heuristics.default.SparesStatusLines ∧
      let options : Options := ⟨8, false, Heuristics.default⟩
      let printed := "*   abcdefg\n  * d\n  e\n       3) \n".toList
      options.formatText "*  abcdefg * d e\n       3)   ".toList = printed ∧
        options.formatText printed = printed := by
  have hspares : Heuristics.default.SparesStatusLines := ⟨by decide, 'T', rfl, by decide⟩
  have htwice := formatText_formatText 8 Heuristics.default hspares
    "*  abcdefg * d e\n       3)   ".toList
  have hprinted : formatText ⟨8, false, Heuristics.default⟩
      "*  abcdefg * d e\n       3)   ".toList =
        "*   abcdefg\n  * d\n  e\n       3) \n".toList := by decide +kernel
  dsimp only at htwice ⊢
  rw [hprinted] at htwice
  exact ⟨hspares, hprinted, htwice⟩

end Options

end Transcript
