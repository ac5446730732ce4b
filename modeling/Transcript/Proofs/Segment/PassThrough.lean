import Transcript.Proofs.Segment.Counts
import Transcript.Proofs.Segment.Framing
import Transcript.Proofs.Stream

/-!
# Texts that are formatted to themselves

The line feeds of a formatted text stand at the ends of its lines and nowhere else, one for each
line printed. Without colour a text is changed only where a status line is too long, so a text
whose status lines all fit is printed as it stands, down to its last line feed.
-/

namespace Transcript

theorem Text.count_lineFeed_joinLines {lines : List Text} (hfree : ∀ line ∈ lines, '\n' ∉ line) :
    (joinLines lines).count '\n' = lines.length := by
  induction lines with
  | nil => rfl
  | cons line rest ih =>
      obtain ⟨hline, hrest⟩ := List.forall_mem_cons.mp hfree
      rw [joinLines_cons, List.count_append, List.count_eq_zero_of_not_mem hline,
        List.count_cons_self, ih hrest, List.length_cons, Nat.zero_add]

namespace Options

variable {options : Options}

/-! ## Lines that fit -/

/-- Every status line of the text fits the terminal when its gap is one space. -/
def AllFit (options : Options) (lines : List Text) : Prop :=
  ∀ line ∈ lines, ∀ status ∈ StatusLine.parse? line, status.render.length ≤ options.columns

instance (options : Options) (lines : List Text) : Decidable (options.AllFit lines) :=
  inferInstanceAs (Decidable (∀ line ∈ lines, ∀ status ∈ StatusLine.parse? line,
    status.render.length ≤ options.columns))

/-- Without colour, lines whose status lines fit are printed as they stand. -/
theorem formatLines_of_allFit (hcolor : options.color = false) {lines : List Text}
    (hfits : options.AllFit lines) : options.formatLines lines = lines := by
  induction lines using walk_induction options with
  | nil => rfl
  | line line rest hopens ih =>
      obtain ⟨hline, hrest⟩ := List.forall_mem_cons.mp hfits
      rw [formatLines_of_not_opensEmpty hopens, output_eq_reflow, reflow_of_fits hline, ih hrest,
        List.singleton_append]
  | dimmed divider header body hopens ih =>
      obtain ⟨_, hrest⟩ := List.forall_mem_cons.mp hfits
      obtain ⟨_, hbody⟩ := List.forall_mem_cons.mp hrest
      rw [formatLines_of_opensEmpty hopens, hcolor, ih hbody]
      rfl

/-- No line printed for a text holds a line feed, so the lines of the formatted text are the lines
printed, and it holds a line feed for each of them. Without colour, a text whose status lines all
fit is formatted to itself, with its last line ended if it was not. -/
theorem formatText_framed (options : Options) (text : Text) :
    let run := (options.stream Sink.collect text.splitLines).run []
    (∀ printed ∈ run.2, '\n' ∉ printed) ∧
      (options.formatText text).splitLines = run.2 ∧
      (options.formatText text).count '\n' = run.1.linesOut ∧
      (options.color = false → options.AllFit text.splitLines →
        options.formatText text =
          if text = [] ∨ text.getLast? = some '\n' then text else text ++ ['\n']) := by
  have hfree := options.lineFeed_not_mem_formatted text
  dsimp only
  rw [run_stream_collect]
  refine ⟨hfree, options.splitLines_formatText text, ?_, ?_⟩
  · rw [linesOut_stats, formatText, Text.count_lineFeed_joinLines hfree]
  · intro hcolor hfits
    rw [formatText, formatLines_of_allFit hcolor hfits]
    exact Text.joinLines_splitLines text

/-- Carriage returns, a blank line, a wide gap and a section that would be dimmed in colour. -/
theorem formatText_framed_unterminated :
    let options : Options := ⟨7, false, Heuristics.default⟩
    let text : Text := "✓   done\r\n\n==========\r\nTesting: a\x00\n\t".toList
    options.color = false ∧ options.AllFit text.splitLines ∧
      options.formatText text = text ++ ['\n'] ∧ (options.formatText text).count '\n' = 5 := by
  intro options text
  have hfits : options.AllFit text.splitLines := by decide +kernel
  have hopen : ¬ (text = [] ∨ text.getLast? = some '\n') := by decide +kernel
  obtain ⟨_, _, hcount, hsame⟩ := formatText_framed options text
  have hfive : ((options.stream Sink.collect text.splitLines).run []).1.linesOut = 5 := by
    rw [run_stream_collect]
    decide +kernel
  exact ⟨rfl, hfits, (hsame rfl hfits).trans (if_neg hopen), hcount.trans hfive⟩

end Options

end Transcript
