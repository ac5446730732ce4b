import Transcript.Proofs.Delivery.Recorder

/-!
# How a run ends when something fails

A run that cannot read writes nothing. Otherwise it writes the formatted text from its
front until a write fails, and the failure it reports is the first one that was not tried
again. When the whole text has been written, the flush decides.
-/

namespace Transcript

namespace Options

/-- A run whose writer keeps a record of the calls made to it. -/
def record (options : Options) (reads : List ReadStep) (writer : Writer) :
    Except Failure Stats × Recorder :=
  (options.run (readAll reads) Recorder.output).run ⟨writer, []⟩

/-- The lines a run is to write: those of the formatted input. -/
def formattedInput (options : Options) (reads : List ReadStep) : List Text :=
  options.formatLines (Text.ofUtf8Lenient (received reads)).splitLines

/-- The bytes a run is to write: those of the formatted text. -/
def formattedBytes (options : Options) (reads : List ReadStep) : Bytes :=
  (options.formatText (Text.ofUtf8Lenient (received reads))).utf8

/-- Keeping a record changes neither what a run gives nor what its writer accepts. -/
theorem deliver_eq_record (options : Options) (reads : List ReadStep) (writer : Writer) :
    options.deliver reads writer =
      ((options.record reads writer).1, (options.record reads writer).2.writer) := by
  change (options.run (readAll reads) Writer.output).run writer = _
  unfold record
  cases readAll reads with
  | error error => rfl
  | ok bytes =>
      have hwriter := options.run_of_silent Writer.output_silent bytes writer
      have hrecorder := options.run_of_silent Recorder.output_silent bytes ⟨writer, []⟩
      have herased := Recorder.writeAndFlush_writer ⟨writer, []⟩
        (options.formatLines (Text.ofUtf8Lenient bytes).splitLines)
      dsimp only at hwriter hrecorder herased
      rw [hwriter, hrecorder, herased]

theorem record_of_failure (options : Options) {reads : List ReadStep} {error : IoError}
    (hfailure : readFailure? reads = some error) (writer : Writer) :
    options.record reads writer = (.error (.input error), ⟨writer, []⟩) := by
  rw [record, readAll_of_failure hfailure]
  rfl

theorem record_of_no_failure (options : Options) {reads : List ReadStep}
    (hfailure : readFailure? reads = none) (writer : Writer) :
    options.record reads writer =
      let outcome := Recorder.output.writeAndFlush ⟨writer, []⟩ (options.formattedInput reads)
      ((outcome.1.map fun _ =>
          options.stats (Text.ofUtf8Lenient (received reads)).splitLines).mapError .output,
        outcome.2) := by
  rw [record, readAll_of_no_failure hfailure]
  exact options.run_of_silent Recorder.output_silent (received reads) ⟨writer, []⟩

end Options

/-- How writing and flushing ends for a writer that had accepted nothing: in the failure of
a write, after which no call is made, or in the flush. -/
inductive Ended (wanted : Bytes) (steps : List WriteStep) (flushing : Except IoError Unit) :
    Except IoError Unit → Recorder → Prop
  | write {taken : Bytes} {calls : List Call} {error : IoError} {left : List WriteStep}
      (hanswered : Answered steps calls left) (hwrote : Wrote wanted taken calls (.error error)) :
      Ended wanted steps flushing (.error error) ⟨⟨left, flushing, taken⟩, calls⟩
  | flush {calls : List Call} {left : List WriteStep}
      (hanswered : Answered steps calls left) (hwrote : Wrote wanted wanted calls (.ok ())) :
      Ended wanted steps flushing flushing
        ⟨⟨left, flushing, wanted⟩, calls ++ [.flush flushing]⟩

/-- What stopped the output: the first write that was not tried again, with calls that are all
writes, or the flush behind writes of which none failed. -/
inductive StoppedBy (wanted : Bytes) (flushing : Except IoError Unit) (recorder : Recorder)
    (error : IoError) : Prop
  | write (hshort : recorder.writer.accepted ≠ wanted)
      (hfirst : recorder.calls.findSome? Call.failure? = some error)
      (hwrites : ∀ call ∈ recorder.calls, call.isWrite = true) :
      StoppedBy wanted flushing recorder error
  | flush {writes : List Call} (hwhole : recorder.writer.accepted = wanted)
      (hflush : flushing = .error error) (hcalls : recorder.calls = writes ++ [.flush flushing])
      (hnone : writes.findSome? Call.failure? = none)
      (hwrites : ∀ call ∈ writes, call.isWrite = true) :
      StoppedBy wanted flushing recorder error

/-- Writing lines and flushing ends in one of the two ways. When no successful call takes
less than it is offered, whole lines are accepted. -/
theorem Recorder.writeAndFlush_ended (steps : List WriteStep) (flushing : Except IoError Unit)
    (lines : List Text) :
    let outcome := output.writeAndFlush ⟨⟨steps, flushing, []⟩, []⟩ lines
    Ended (Text.joinLines lines).utf8 steps flushing outcome.1 outcome.2 ∧
      ((∀ call ∈ outcome.2.calls, call.isWhole = true) →
        ∃ count, outcome.2.writer.accepted = (Text.joinLines (lines.take count)).utf8) := by
  obtain ⟨taken, calls, hadvances, hwhole⟩ :=
    writeEach_advances ⟨⟨steps, flushing, []⟩, []⟩ lines
  rw [Output.writeAndFlush]
  revert hadvances
  rcases output.writeEach ⟨⟨steps, flushing, []⟩, []⟩ lines with
    ⟨result, ⟨⟨left, flushed, accepted⟩, made⟩⟩
  rintro ⟨hcalls, haccepted, hflushing, hanswered, hwrote⟩
  dsimp only [List.nil_append] at hcalls haccepted hflushing
  subst hcalls haccepted hflushing
  cases result with
  | error error => exact ⟨.write hanswered hwrote, hwhole⟩
  | ok =>
      have htaken := hwrote.taken_of_ok
      subst htaken
      refine ⟨.flush hanswered hwrote, fun _ => ⟨lines.length, ?_⟩⟩
      rw [List.take_length]
      rfl

namespace Ended

variable {wanted : Bytes} {steps : List WriteStep} {flushing result : Except IoError Unit}
  {recorder : Recorder}

theorem accepted_eq (hended : Ended wanted steps flushing result recorder) :
    recorder.writer.accepted = recorder.calls.flatMap Call.taken := by
  cases hended with
  | write _ hwrote => exact hwrote.taken_eq
  | flush _ hwrote =>
      rw [List.flatMap_append, ← hwrote.taken_eq]
      exact (List.append_nil _).symm

theorem answered (hended : Ended wanted steps flushing result recorder) :
    Answered steps (recorder.calls.filter Call.isWrite) recorder.writer.steps := by
  cases hended with
  | write hanswered _ =>
      rw [List.filter_eq_self.mpr hanswered.isWrite]
      exact hanswered
  | flush hanswered _ =>
      rw [List.filter_append, List.filter_eq_self.mpr hanswered.isWrite]
      exact (List.append_nil _).symm ▸ hanswered

theorem initial (hended : Ended wanted steps flushing result recorder) :
    recorder.writer.accepted <+: wanted := by
  cases hended with
  | write _ hwrote => exact hwrote.initial
  | flush => exact List.prefix_refl _

/-- Nothing failed exactly when everything was accepted and flushed. -/
theorem ok_iff (hended : Ended wanted steps flushing result recorder) :
    result = .ok () ↔ recorder.writer.accepted = wanted ∧ flushing = .ok () := by
  cases hended with
  | write _ hwrote =>
      constructor
      · intro hok
        simp at hok
      · rintro ⟨haccepted, _⟩
        exact hwrote.ok_iff.mpr haccepted
  | flush => exact ⟨fun hok => ⟨rfl, hok⟩, fun hboth => hboth.2⟩

/-- What failed was the first write that was not tried again, or the flush. -/
theorem stoppedBy {error : IoError}
    (hended : Ended wanted steps flushing (.error error) recorder) :
    StoppedBy wanted flushing recorder error := by
  generalize hresult : (Except.error error : Except IoError Unit) = result at hended
  cases hended with
  | write hanswered hwrote =>
      obtain rfl := Except.error.inj hresult
      refine .write ?_ (verdict_eq_error_iff.mp hwrote.result_eq.symm) hanswered.isWrite
      intro haccepted
      simpa using hwrote.ok_iff.mpr haccepted
  | flush hanswered hwrote =>
      exact .flush rfl hresult.symm rfl (verdict_eq_ok_iff.mp hwrote.result_eq.symm)
        hanswered.isWrite

end Ended

namespace Options

/-- A run that can read ends as its writing and flushing end. -/
theorem record_ended (options : Options) {reads : List ReadStep}
    (hfailure : readFailure? reads = none) (steps : List WriteStep)
    (flushing : Except IoError Unit) :
    let outcome := options.record reads ⟨steps, flushing, []⟩
    ∃ written,
      outcome.1 = (written.map fun _ =>
          options.stats (Text.ofUtf8Lenient (received reads)).splitLines).mapError .output ∧
        Ended (options.formattedBytes reads) steps flushing written outcome.2 ∧
        ((∀ call ∈ outcome.2.calls, call.isWhole = true) →
          ∃ count, outcome.2.writer.accepted =
            (Text.joinLines ((options.formattedInput reads).take count)).utf8) := by
  rw [record_of_no_failure options hfailure]
  exact ⟨_, rfl, Recorder.writeAndFlush_ended steps flushing (options.formattedInput reads)⟩

/-- How a run ends whose input cannot be read: that is reported, and nothing is written or
flushed. -/
structure Unread (error : IoError) (result : Except Failure Stats) (recorder : Recorder) :
    Prop where
  result_eq : result = .error (.input error)
  calls_eq : recorder.calls = []
  accepted_eq : recorder.writer.accepted = []
  not_closed : (Failure.input error).isDownstreamClosed = false

/-- How a run ends whose input can be read. The writer accepts the bytes to be written from their
front, by calls that met its steps in order. -/
structure Delivered (options : Options) (reads : List ReadStep) (steps : List WriteStep)
    (flushing : Except IoError Unit) (result : Except Failure Stats) (recorder : Recorder) :
    Prop where
  accepted_eq : recorder.writer.accepted = recorder.calls.flatMap Call.taken
  answered : Answered steps (recorder.calls.filter Call.isWrite) recorder.writer.steps
  initial : recorder.writer.accepted <+: options.formattedBytes reads
  /-- The run succeeds exactly when all is accepted and the flush succeeds. -/
  ok_iff : (∃ counts, result = .ok counts) ↔
    recorder.writer.accepted = options.formattedBytes reads ∧ flushing = .ok ()
  /-- Otherwise it reports what stopped the output. -/
  reports : ∀ failure, result = .error failure → ∃ error, failure = .output error ∧
    (failure.isDownstreamClosed = true ↔ error.kind = .brokenPipe) ∧
    StoppedBy (options.formattedBytes reads) flushing recorder error
  /-- When no successful write takes less than it is offered, whole lines are accepted. -/
  whole_lines : (∀ call ∈ recorder.calls, call.isWhole = true) → ∃ count,
    recorder.writer.accepted = (Text.joinLines ((options.formattedInput reads).take count)).utf8

theorem record_unread (options : Options) {reads : List ReadStep} {error : IoError}
    (hfailure : readFailure? reads = some error) (steps : List WriteStep)
    (flushing : Except IoError Unit) :
    let outcome := options.record reads ⟨steps, flushing, []⟩
    Unread error outcome.1 outcome.2 := by
  dsimp only
  rw [options.record_of_failure hfailure]
  exact ⟨rfl, rfl, rfl, rfl⟩

theorem record_delivered (options : Options) {reads : List ReadStep}
    (hfailure : readFailure? reads = none) (steps : List WriteStep)
    (flushing : Except IoError Unit) :
    let outcome := options.record reads ⟨steps, flushing, []⟩
    Delivered options reads steps flushing outcome.1 outcome.2 := by
  obtain ⟨written, hresult, hended, hwhole⟩ := options.record_ended hfailure steps flushing
  refine ⟨hended.accepted_eq, hended.answered, hended.initial, ?_, ?_, hwhole⟩
  · rw [← hended.ok_iff, hresult]
    cases written with
    | error error => exact iff_of_false (fun ⟨_, hok⟩ => nomatch hok) fun hok => nomatch hok
    | ok => exact iff_of_true ⟨_, rfl⟩ rfl
  · intro failure hreported
    rw [hresult] at hreported
    cases written with
    | error error =>
        obtain rfl := Except.error.inj hreported
        exact ⟨error, rfl, decide_eq_true_iff, hended.stoppedBy⟩
    | ok => exact nomatch hreported

/-- A run under every script of its reader and its writer. Keeping a record of the calls does not
change it. If the input cannot be read, that is reported and nothing is written or flushed.
Otherwise the formatted text is accepted from its front, and the run succeeds, or reports what
stopped the output. -/
theorem deliver_under_failure (options : Options) (reads : List ReadStep)
    (steps : List WriteStep) (flushing : Except IoError Unit) :
    let (result, recorder) := options.record reads ⟨steps, flushing, []⟩
    options.deliver reads ⟨steps, flushing, []⟩ = (result, recorder.writer) ∧
      (∀ error, readFailure? reads = some error → Unread error result recorder) ∧
      (readFailure? reads = none →
        Delivered options reads steps flushing result recorder) := by
  refine ⟨options.deliver_eq_record reads _, ?_, ?_⟩
  · intro error hfailure
    exact options.record_unread hfailure steps flushing
  · intro hfailure
    exact options.record_delivered hfailure steps flushing

/-- The input arrives in two pieces and ends before a failure, which is not met. The reader of the
output goes away after one byte. -/
theorem deliver_under_failure_brokenPipe :
    let options : Options := ⟨4, false, ⟨3, 1, ['T'], [], []⟩⟩
    let reads : List ReadStep :=
      [.data [97, 13], .fail ⟨.interrupted, []⟩, .data [10], .data [], .fail ⟨.other, []⟩]
    let steps : List WriteStep := [.accept 1, .fail ⟨.brokenPipe, []⟩]
    let (result, recorder) := options.record reads ⟨steps, .ok (), []⟩
    readFailure? reads = none ∧ options.formattedBytes reads = [97, 13, 10] ∧
      result = .error (.output ⟨.brokenPipe, []⟩) ∧
      recorder.writer.accepted <+: [97, 13, 10] ∧ recorder.writer.accepted ≠ [97, 13, 10] := by
  intro options reads steps
  obtain ⟨-, -, hread⟩ := deliver_under_failure options reads steps (.ok ())
  have hdelivered := hread rfl
  have hbytes : options.formattedBytes reads = [97, 13, 10] := by decide
  refine ⟨rfl, hbytes, rfl, hbytes ▸ hdelivered.initial, ?_⟩
  intro hall
  obtain ⟨_, hok⟩ := hdelivered.ok_iff.mpr ⟨hall.trans hbytes.symm, rfl⟩
  exact nomatch hok

end Options

end Transcript
