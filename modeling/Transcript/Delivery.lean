import Transcript.Failure
import Transcript.Stream
import Transcript.Text.Utf8

/-! # From input to output

The whole input is read and decoded, then the formatted lines are written one by one,
each with its line feed in one write. A read or write that was interrupted is tried
again, any other failure ends the run.
-/

namespace Transcript

/-! ## Reading -/

/-- What one read brings. A read that brings no bytes tells that the input has ended. -/
inductive ReadStep where
  | data (bytes : Bytes)
  | fail (error : IoError)
  deriving DecidableEq

/-- Everything a sequence of reads brings, up to the end of the input. No read is made after
that. -/
def readAll : List ReadStep → Except IoError Bytes
  | [] => .ok []
  | .data bytes :: rest =>
    if bytes.isEmpty then .ok [] else (readAll rest).map (bytes ++ ·)
  | .fail error :: rest => if error.isInterrupted then readAll rest else .error error

/-! ## Running -/

/-- Where a run puts its lines. Each operation tells whether it failed. -/
structure Output (m : Type → Type) where
  /-- Writes a whole buffer. -/
  write : Bytes → m (Except IoError Unit)
  /-- Hands on what is held back. -/
  flush : m (Except IoError Unit)
  /-- Told the number of lines read. -/
  begin : Nat → m Unit
  /-- Told of each decision. -/
  report : Notice → m Unit

namespace Output

variable {m : Type → Type} [Monad m]

/-- The sink that writes each line with its line feed. -/
def sink (output : Output m) : Sink (ExceptT IoError m) where
  emit line := ExceptT.mk (output.write (Text.endLine line).utf8)
  report notice := ExceptT.lift (output.report notice)

end Output

namespace Options

variable {m : Type → Type} [Monad m]

/-- Writes the formatted lines and flushes. -/
def writeLines (options : Options) (output : Output m) (lines : List Text) :
    ExceptT IoError m Stats := do
  let stats ← options.stream output.sink lines
  ExceptT.mk output.flush
  pure stats

/-- Formats an input, which may have failed, to an output. -/
def run (options : Options) (input : Except IoError Bytes) (output : Output m) :
    m (Except Failure Stats) :=
  match input with
  | .error error => pure (.error (.input error))
  | .ok bytes => do
    let lines := (Text.ofUtf8Lenient bytes).splitLines
    output.begin lines.length
    let result ← (options.writeLines output lines).run
    pure (result.mapError .output)

end Options

/-! ## Scripted writers -/

/-- What one write does: it takes so many bytes at most, or fails. -/
inductive WriteStep where
  | accept (count : Nat)
  | fail (error : IoError)
  deriving DecidableEq

/-- A writer whose behaviour is laid down in advance. Once the steps are used up, a write
takes its whole buffer. -/
structure Writer where
  /-- What the next writes do. -/
  steps : List WriteStep
  /-- What the flush does. -/
  flushing : Except IoError Unit
  /-- The bytes taken so far. -/
  accepted : Bytes

namespace Writer

/-- Writes a whole buffer, after the bytes already accepted, by as many writes as it
takes. Gives the result, the steps left and all bytes accepted. -/
def feed : (buffer accepted : Bytes) → List WriteStep →
    Except IoError Unit × List WriteStep × Bytes
  | [], accepted, steps => (.ok (), steps, accepted)
  | buffer, accepted, [] => (.ok (), [], accepted ++ buffer)
  | buffer, accepted, .fail error :: steps =>
    if error.isInterrupted then feed buffer accepted steps else (.error error, steps, accepted)
  | _, accepted, .accept 0 :: steps => (.error .nothingWritten, steps, accepted)
  | buffer, accepted, .accept (count + 1) :: steps =>
    feed (buffer.drop (count + 1)) (accepted ++ buffer.take (count + 1)) steps

/-- Writes a whole buffer. -/
def write (writer : Writer) (buffer : Bytes) : Except IoError Unit × Writer :=
  let (result, steps, accepted) := feed buffer writer.accepted writer.steps
  (result, { writer with steps, accepted })

/-- The output that goes to a scripted writer, which is the state. Nobody listens to the
notices. -/
def output : Output (StateM Writer) where
  write buffer writer := writer.write buffer
  flush writer := (writer.flushing, writer)
  begin _ := pure ()
  report _ := pure ()

end Writer

/-- Formats what a sequence of reads brings to a scripted writer. -/
def Options.deliver (options : Options) (reads : List ReadStep) (writer : Writer) :
    Except Failure Stats × Writer :=
  options.run (readAll reads) Writer.output writer

end Transcript
