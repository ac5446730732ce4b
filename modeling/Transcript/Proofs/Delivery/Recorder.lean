import Transcript.Proofs.Delivery.Reading
import Transcript.Proofs.Delivery.Run
import Transcript.Proofs.Delivery.Writing

/-!
# A writer with a record

A writer may keep a record of the calls made to it. It behaves like one that does not, so
the record of a run tells what a writer without one goes through: which bytes were taken
by which call, and whether it was flushed.
-/

namespace Transcript

/-- A writer and the calls made to it so far. -/
structure Recorder where
  writer : Writer
  calls : List Call

namespace Recorder

/-- The output that goes to a writer with a record, which is the state. -/
def output : Output (StateM Recorder) where
  write buffer recorder :=
    let (result, writer) := recorder.writer.write buffer
    (result, ⟨writer, recorder.calls ++ Writer.calls buffer recorder.writer.steps⟩)
  flush recorder :=
    (recorder.writer.flushing,
      ⟨recorder.writer, recorder.calls ++ [.flush recorder.writer.flushing]⟩)
  begin _ := pure ()
  report _ := pure ()

theorem output_silent : output.Silent := ⟨fun _ => rfl, fun _ => rfl⟩

end Recorder

theorem Writer.output_silent : Writer.output.Silent := ⟨fun _ => rfl, fun _ => rfl⟩

namespace Recorder

/-- The record has no influence on the writer. -/
theorem output_simulates :
    output.Simulates Writer.output fun recorder writer => recorder.writer = writer where
  write _ _ _ hrelated := hrelated ▸ ⟨rfl, rfl⟩
  flush _ _ hrelated := hrelated ▸ ⟨rfl, rfl⟩

theorem writeAndFlush_writer (recorder : Recorder) (lines : List Text) :
    Writer.output.writeAndFlush recorder.writer lines =
      ((output.writeAndFlush recorder lines).1,
        (output.writeAndFlush recorder lines).2.writer) := by
  obtain ⟨hresult, hwriter⟩ := output_simulates.writeAndFlush (Eq.refl recorder.writer) lines
  exact Prod.ext hresult.symm hwriter.symm

/-! ## Lines -/

/-- Writes lead from one record to the next, by calls that took the bytes `taken`. -/
structure Advances (recorder next : Recorder) (wanted taken : Bytes) (calls : List Call)
    (result : Except IoError Unit) : Prop where
  calls_eq : next.calls = recorder.calls ++ calls
  accepted_eq : next.writer.accepted = recorder.writer.accepted ++ taken
  flushing_eq : next.writer.flushing = recorder.writer.flushing
  answered : Answered recorder.writer.steps calls next.writer.steps
  wrote : Wrote wanted taken calls result

/-- One buffer advances the record. When no successful call takes less than it is offered,
the buffer is taken as a whole or not at all. -/
theorem write_advances (recorder : Recorder) (buffer : Bytes) :
    ∃ taken calls,
      Advances recorder ((output.write buffer).run recorder).2 buffer taken calls
          ((output.write buffer).run recorder).1 ∧
        ((∀ call ∈ calls, call.isWhole = true) → taken = [] ∨ taken = buffer) := by
  obtain ⟨taken, haccepted, hwrote⟩ :=
    Writer.wrote_feed buffer recorder.writer.accepted recorder.writer.steps
  have hanswered :=
    Writer.answered_feed buffer recorder.writer.accepted recorder.writer.steps
  refine ⟨taken, Writer.calls buffer recorder.writer.steps,
    ⟨rfl, haccepted, rfl, hanswered, hwrote⟩, ?_⟩
  intro hwhole
  have hfeed := Writer.feed_of_whole buffer recorder.writer.accepted recorder.writer.steps hwhole
  rw [haccepted, List.append_cancel_left_eq] at hfeed
  exact hfeed.imp_left List.append_right_eq_self.mp

theorem Advances.append {first middle last : Recorder} {wanted later taken more : Bytes}
    {calls next : List Call} {result : Except IoError Unit}
    (hfirst : Advances first middle wanted taken calls (.ok ()))
    (hsecond : Advances middle last later more next result) :
    Advances first last (wanted ++ later) (taken ++ more) (calls ++ next) result where
  calls_eq := by rw [hsecond.calls_eq, hfirst.calls_eq, List.append_assoc]
  accepted_eq := by rw [hsecond.accepted_eq, hfirst.accepted_eq, List.append_assoc]
  flushing_eq := hsecond.flushing_eq.trans hfirst.flushing_eq
  answered := hfirst.answered.append hsecond.answered
  wrote := hfirst.wrote.append hsecond.wrote

theorem Advances.append_of_error {first last : Recorder} {wanted taken : Bytes}
    {calls : List Call} {error : IoError}
    (hfirst : Advances first last wanted taken calls (.error error)) (later : Bytes) :
    Advances first last (wanted ++ later) taken calls (.error error) where
  calls_eq := hfirst.calls_eq
  accepted_eq := hfirst.accepted_eq
  flushing_eq := hfirst.flushing_eq
  answered := hfirst.answered
  wrote := hfirst.wrote.append_of_error later

theorem utf8_joinLines_cons (line : Text) (rest : List Text) :
    (Text.joinLines (line :: rest)).utf8 =
      (Text.endLine line).utf8 ++ (Text.joinLines rest).utf8 := by
  rw [Text.joinLines, List.flatMap_cons, Text.utf8, List.flatMap_append]
  rfl

/-- Writing lines is writing the text that holds them. When no successful call takes less
than it is offered, the bytes taken are those of whole lines. -/
theorem writeEach_advances (recorder : Recorder) (lines : List Text) :
    ∃ taken calls,
      Advances recorder (output.writeEach recorder lines).2 (Text.joinLines lines).utf8 taken calls
          (output.writeEach recorder lines).1 ∧
        ((∀ call ∈ calls, call.isWhole = true) →
          ∃ count, taken = (Text.joinLines (lines.take count)).utf8) := by
  induction lines generalizing recorder with
  | nil =>
      exact ⟨[], [],
        ⟨(List.append_nil _).symm, (List.append_nil _).symm, rfl, .nil _, Wrote.nil⟩,
        fun _ => ⟨0, rfl⟩⟩
  | cons line rest ih =>
      obtain ⟨taken, calls, hline, hwhole⟩ := recorder.write_advances (Text.endLine line).utf8
      rw [Output.writeEach, utf8_joinLines_cons]
      revert hline
      rcases (output.write (Text.endLine line).utf8).run recorder with ⟨result, middle⟩
      intro hline
      cases result with
      | error error =>
          refine ⟨taken, calls, hline.append_of_error _, ?_⟩
          intro hcalls
          rcases hwhole hcalls with hnone | hall
          · exact ⟨0, hnone⟩
          -- A line taken as a whole is a line whose writing succeeded.
          · exact absurd (hline.wrote.ok_iff.mpr hall) (by simp)
      | ok =>
          obtain ⟨more, later, hrest, hlines⟩ := ih middle
          refine ⟨taken ++ more, calls ++ later, hline.append hrest, ?_⟩
          intro hcalls
          obtain ⟨count, hmore⟩ :=
            hlines fun call hmem => hcalls call (List.mem_append_right calls hmem)
          refine ⟨count + 1, ?_⟩
          rw [hline.wrote.taken_of_ok, hmore, List.take_succ_cons, utf8_joinLines_cons]

end Recorder

end Transcript
