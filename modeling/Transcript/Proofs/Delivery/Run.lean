import Transcript.Delivery
import Transcript.Proofs.Stream

/-!
# What a run does to its output

An output that does nothing with the number of lines and with notices is handed one
buffer for each formatted line and then flushed, until one of these operations fails. The
run is the lines written one by one, whatever state the output keeps.
-/

namespace Transcript

variable {σ : Type}

namespace Output

/-- An output that is only written to and flushed. -/
structure Silent (output : Output (StateM σ)) : Prop where
  begin_eq : ∀ lines, output.begin lines = pure ()
  report_eq : ∀ notice, output.report notice = pure ()

theorem Silent.quiet {output : Output (StateM σ)} (hsilent : output.Silent) :
    output.sink.Quiet := by
  intro notice
  change ExceptT.lift (output.report notice) = pure ()
  rw [hsilent.report_eq]
  rfl

/-- Writes lines one by one, each with its line feed, until a write fails. -/
def writeEach (output : Output (StateM σ)) (state : σ) : List Text → Except IoError Unit × σ
  | [] => (.ok (), state)
  | line :: rest =>
    match (output.write (Text.endLine line).utf8).run state with
    | (.ok (), next) => output.writeEach next rest
    | (.error error, next) => (.error error, next)

/-- Writes lines one by one and flushes behind them. -/
def writeAndFlush (output : Output (StateM σ)) (state : σ) (lines : List Text) :
    Except IoError Unit × σ :=
  match output.writeEach state lines with
  | (.ok (), next) => output.flush.run next
  | (.error error, next) => (.error error, next)

theorem run_forM_emit (output : Output (StateM σ)) (state : σ) (lines : List Text) :
    (ExceptT.run (lines.forM output.sink.emit)).run state = output.writeEach state lines := by
  induction lines generalizing state with
  | nil => rfl
  | cons line rest ih =>
      rw [List.forM_eq_forM, List.forM_cons, ExceptT.run_bind, StateT.run_bind, writeEach]
      have hemit : (output.sink.emit line).run = output.write (Text.endLine line).utf8 := rfl
      rw [hemit]
      rcases (output.write (Text.endLine line).utf8).run state with ⟨result, next⟩
      cases result with
      | error error => rfl
      | ok => exact ih next

/-! ## Outputs that behave alike -/

/-- Two outputs behave alike as long as their states are related: an operation gives the same
result on both and leaves their states related. -/
structure Simulates {τ : Type} (output : Output (StateM σ)) (other : Output (StateM τ))
    (related : σ → τ → Prop) : Prop where
  write : ∀ buffer state next, related state next →
    ((output.write buffer).run state).1 = ((other.write buffer).run next).1 ∧
      related ((output.write buffer).run state).2 ((other.write buffer).run next).2
  flush : ∀ state next, related state next →
    (output.flush.run state).1 = (other.flush.run next).1 ∧
      related (output.flush.run state).2 (other.flush.run next).2

namespace Simulates

variable {τ : Type} {output : Output (StateM σ)} {other : Output (StateM τ)}
  {related : σ → τ → Prop} {state : σ} {next : τ}

theorem writeEach (hsimulates : output.Simulates other related) (hrelated : related state next)
    (lines : List Text) :
    (output.writeEach state lines).1 = (other.writeEach next lines).1 ∧
      related (output.writeEach state lines).2 (other.writeEach next lines).2 := by
  induction lines generalizing state next with
  | nil => exact ⟨rfl, hrelated⟩
  | cons line rest ih =>
      have hstep := hsimulates.write (Text.endLine line).utf8 state next hrelated
      rw [Output.writeEach, Output.writeEach]
      revert hstep
      rcases (output.write (Text.endLine line).utf8).run state with ⟨result, after⟩
      rcases (other.write (Text.endLine line).utf8).run next with ⟨otherResult, otherAfter⟩
      rintro ⟨hresult, hafter⟩
      dsimp only at hresult hafter
      subst hresult
      cases result with
      | error error => exact ⟨rfl, hafter⟩
      | ok => exact ih hafter

theorem writeAndFlush (hsimulates : output.Simulates other related)
    (hrelated : related state next) (lines : List Text) :
    (output.writeAndFlush state lines).1 = (other.writeAndFlush next lines).1 ∧
      related (output.writeAndFlush state lines).2 (other.writeAndFlush next lines).2 := by
  have hlines := hsimulates.writeEach hrelated lines
  rw [Output.writeAndFlush, Output.writeAndFlush]
  revert hlines
  rcases output.writeEach state lines with ⟨result, after⟩
  rcases other.writeEach next lines with ⟨otherResult, otherAfter⟩
  rintro ⟨hresult, hafter⟩
  dsimp only at hresult hafter
  subst hresult
  cases result with
  | error error => exact ⟨rfl, hafter⟩
  | ok => exact hsimulates.flush after otherAfter hafter

end Simulates

end Output

namespace Options

/-- Writing the formatted lines of a transcript gives its counts unless a write or the flush
fails. -/
theorem run_writeLines (options : Options) {output : Output (StateM σ)} (hsilent : output.Silent)
    (lines : List Text) (state : σ) :
    (options.writeLines output lines).run.run state =
      (((output.writeAndFlush state (options.formatLines lines)).1).map fun _ =>
        options.stats lines, (output.writeAndFlush state (options.formatLines lines)).2) := by
  rw [writeLines, stream_of_quiet options hsilent.quiet, bind_assoc, ExceptT.run_bind,
    StateT.run_bind, Output.run_forM_emit, Output.writeAndFlush]
  rcases output.writeEach state (options.formatLines lines) with ⟨result, next⟩
  cases result with
  | error error => rfl
  | ok =>
      change ((do ExceptT.mk output.flush; pure (options.stats lines) :
        ExceptT IoError (StateM σ) Stats).run.run next) = _
      rw [ExceptT.run_bind, StateT.run_bind]
      change _ = (((output.flush.run next).1).map _, (output.flush.run next).2)
      have hflush : (ExceptT.mk output.flush).run = output.flush := rfl
      rw [hflush]
      rcases output.flush.run next with ⟨flushed, last⟩
      cases flushed <;> rfl

/-- A run writes the formatted lines of the input and flushes. -/
theorem run_of_silent (options : Options) {output : Output (StateM σ)} (hsilent : output.Silent)
    (bytes : Bytes) (state : σ) :
    let lines := (Text.ofUtf8Lenient bytes).splitLines
    let outcome := output.writeAndFlush state (options.formatLines lines)
    (options.run (.ok bytes) output).run state =
      ((outcome.1.map fun _ => options.stats lines).mapError .output, outcome.2) := by
  dsimp only
  rw [run, hsilent.begin_eq, pure_bind, StateT.run_bind, run_writeLines options hsilent]
  rfl

end Options

end Transcript
