import Transcript.Proofs.Delivery.Outcome

/-!
# How the bytes travel

The input may arrive in any pieces and the output may leave in any pieces, with any number
of interruptions on either side. Neither the counts nor the bytes accepted depend on that.
-/

namespace Transcript

/-! ## Ways to travel -/

/-- Reads that bring these bytes, cut anywhere, and fail only in being interrupted. The input ends
with the reads, or with one that brings nothing. -/
inductive Brings : Bytes → List ReadStep → Prop
  | nil : Brings [] []
  | ended (reads : List ReadStep) : Brings [] (.data [] :: reads)
  | data {rest : Bytes} {reads : List ReadStep} (piece : Bytes) (hpiece : piece ≠ [])
      (hrest : Brings rest reads) : Brings (piece ++ rest) (.data piece :: reads)
  | again {bytes : Bytes} {reads : List ReadStep} {error : IoError}
      (hinterrupted : error.isInterrupted = true) (hrest : Brings bytes reads) :
      Brings bytes (.fail error :: reads)

namespace Brings

variable {bytes : Bytes} {reads : List ReadStep}

theorem received_eq (hbrings : Brings bytes reads) : received reads = bytes := by
  induction hbrings with
  | nil => rfl
  | ended => rfl
  | data _ hpiece _ ih =>
      rw [received_cons (ReadStep.isEnd_data hpiece), ih]
      rfl
  | again _ _ ih => exact (received_cons rfl _).trans ih

theorem readFailure?_eq_none (hbrings : Brings bytes reads) : readFailure? reads = none := by
  induction hbrings with
  | nil => rfl
  | ended => rfl
  | data _ hpiece _ ih =>
      rw [readFailure?_cons (ReadStep.isEnd_data hpiece), ih]
      rfl
  | again hinterrupted _ ih =>
      rw [readFailure?_cons rfl, ReadStep.failure?_of_interrupted hinterrupted, ih]
      rfl

end Brings

/-- Whether a write that meets the step gets on or is to be tried again: at least one byte
is taken, or the write is interrupted. -/
def WriteStep.isBenign : WriteStep → Bool
  | accept count => count != 0
  | fail error => error.isInterrupted

/-- A write that meets a benign step does not fail. -/
theorem WriteStep.failure?_answer {step : WriteStep} (hbenign : step.isBenign = true)
    (buffer : Bytes) : (Call.write buffer (step.answer buffer)).failure? = none := by
  cases step with
  | fail error => exact if_pos hbenign
  | accept count =>
      have hcount : count ≠ 0 := bne_iff_ne.mp hbenign
      -- Taking nothing of an empty buffer is no failure.
      by_cases hempty : buffer = []
      · rw [answer, hempty, List.length_nil, Nat.min_zero]
        rfl
      · have hlength : buffer.length ≠ 0 := mt List.eq_nil_of_length_eq_zero hempty
        exact Writer.failure?_of_taken (by omega)

/-! ## Nothing fails -/

/-- Calls that meet only benign steps come to no failure. -/
theorem Answered.failure?_eq_none {steps left : List WriteStep} {calls : List Call}
    (hanswered : Answered steps calls left) (hbenign : ∀ step ∈ steps, step.isBenign = true) :
    calls.findSome? Call.failure? = none := by
  induction hanswered with
  | nil => rfl
  | step step buffer _ ih =>
      obtain ⟨hstep, hsteps⟩ := List.forall_mem_cons.mp hbenign
      rw [List.findSome?_cons, step.failure?_answer hstep]
      exact ih hsteps
  | free buffer _ ih =>
      have hfree : (Call.write buffer (.ok buffer.length)).failure? = none := by
        cases buffer <;> rfl
      rw [List.findSome?_cons, hfree]
      exact ih hbenign

/-- Before a flush that succeeds, benign steps let everything through. -/
theorem Ended.of_benign {wanted : Bytes} {steps : List WriteStep}
    {result : Except IoError Unit} {recorder : Recorder}
    (hended : Ended wanted steps (.ok ()) result recorder)
    (hbenign : ∀ step ∈ steps, step.isBenign = true) :
    result = .ok () ∧ recorder.writer.accepted = wanted := by
  cases hended with
  | write hanswered hwrote =>
      have hverdict := verdict_eq_ok_iff.mpr (hanswered.failure?_eq_none hbenign)
      exact absurd (hwrote.result_eq.trans hverdict) (by simp)
  | flush => exact ⟨rfl, rfl⟩

namespace Options

/-- A run whose input arrives and whose output is taken gives the counts of the transcript,
and its writer accepts the formatted text. -/
theorem deliver_eq_of_brings (options : Options) {bytes : Bytes} {reads : List ReadStep}
    {steps : List WriteStep} (hbrings : Brings bytes reads)
    (hbenign : ∀ step ∈ steps, step.isBenign = true) :
    let outcome := options.deliver reads ⟨steps, .ok (), []⟩
    outcome.1 = .ok (options.stats (Text.ofUtf8Lenient bytes).splitLines) ∧
      outcome.2.accepted = (options.formatText (Text.ofUtf8Lenient bytes)).utf8 := by
  obtain ⟨written, hresult, hended, _⟩ :=
    options.record_ended hbrings.readFailure?_eq_none steps (.ok ())
  obtain ⟨rfl, haccepted⟩ := hended.of_benign hbenign
  rw [hbrings.received_eq] at hresult
  rw [formattedBytes, hbrings.received_eq] at haccepted
  rw [deliver_eq_record]
  exact ⟨hresult, haccepted⟩

/-- A run does not depend on how its bytes travel. However the input is cut and the output
taken, and however often either is interrupted, the run gives the counts of the lines and
its writer accepts the formatted text. Two such runs on the same bytes agree. -/
theorem deliver_transport (options : Options) {bytes : Bytes} {reads : List ReadStep}
    {steps : List WriteStep} (hbrings : Brings bytes reads)
    (hbenign : ∀ step ∈ steps, step.isBenign = true) :
    let text := Text.ofUtf8Lenient bytes
    let (counts, printed) := (options.stream Sink.collect text.splitLines).run []
    let (result, last) := options.deliver reads ⟨steps, .ok (), []⟩
    result = .ok counts ∧ last.accepted = (options.formatText text).utf8 ∧
      options.formatText text = Text.joinLines printed ∧
      ∀ (others : List ReadStep) (otherSteps : List WriteStep), Brings bytes others →
        (∀ step ∈ otherSteps, step.isBenign = true) →
        let (otherResult, otherLast) := options.deliver others ⟨otherSteps, .ok (), []⟩
        otherResult = result ∧ otherLast.accepted = last.accepted := by
  obtain ⟨hresult, haccepted⟩ := options.deliver_eq_of_brings hbrings hbenign
  intro text
  rw [run_stream_collect]
  refine ⟨hresult, haccepted, rfl, ?_⟩
  intro others otherSteps hothers hotherBenign
  obtain ⟨hother, hotherAccepted⟩ := options.deliver_eq_of_brings hothers hotherBenign
  exact ⟨hother.trans hresult.symm, hotherAccepted.trans haccepted.symm⟩

/-- A character of two bytes is cut on its way in and on its way out. -/
theorem deliver_transport_cut :
    let options : Options := ⟨4, false, ⟨3, 1, ['T'], [], []⟩⟩
    let reads : List ReadStep :=
      [.data [195], .fail ⟨.interrupted, []⟩, .data [169, 10], .data [], .data [65]]
    let steps : List WriteStep := [.accept 1, .fail ⟨.interrupted, []⟩, .accept 5]
    Brings [195, 169, 10] reads ∧ (∀ step ∈ steps, step.isBenign = true) ∧
      (options.deliver reads ⟨steps, .ok (), []⟩).2.accepted = [195, 169, 10] := by
  intro options reads steps
  have hbrings : Brings [195, 169, 10] reads :=
    .data [195] (by decide) (.again rfl (.data [169, 10] (by decide) (.ended _)))
  have hbenign : ∀ step ∈ steps, step.isBenign = true := by decide
  have htext : (options.formatText (Text.ofUtf8Lenient [195, 169, 10])).utf8 =
      [195, 169, 10] := by
    decide
  exact ⟨hbrings, hbenign, (deliver_transport options hbrings hbenign).2.1.trans htext⟩

end Options

end Transcript
