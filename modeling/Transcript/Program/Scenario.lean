import Transcript.Program

/-! # Scenarios

A run of the program in which everything it meets is laid down in advance: the files,
the environment, what the reads of the input bring and how the output behaves.
-/

namespace Transcript.Program

/-- What a run meets. -/
structure Scenario where
  files : FileTree
  /-- The names that lead to the current directory. -/
  directory : List Text
  environment : Environment
  arguments : List Text
  /-- The terminal the output goes to, if it goes to one. -/
  terminal : Option Terminal
  /-- The reads of the input, none if the user interrupts the run before it ends. -/
  input : Option (List ReadStep)
  writer : Writer

/-- What is left behind while a run goes on. -/
structure Trail where
  writer : Writer
  /-- The lines of the log. -/
  log : List Text

/-- What a run leaves behind. -/
structure Outcome where
  status : ExitStatus
  output : Bytes
  log : List Text
  deriving DecidableEq

namespace Scenario

/-- The place where the run happens. -/
def host (scenario : Scenario) : Host (StateM Trail) where
  directory := Path.absolute scenario.directory
  environment := scenario.environment
  terminal := scenario.terminal
  files := scenario.files.system scenario.directory
  input := pure (scenario.input.map readAll)
  write buffer trail :=
    let (result, writer) := trail.writer.write buffer
    (result, { trail with writer })
  flush trail := (trail.writer.flushing, trail)
  log line trail := ((), { trail with log := trail.log ++ line.splitLines })

/-- Runs the program. -/
def outcome (scenario : Scenario) : Outcome :=
  let (status, trail) := (scenario.host.run scenario.arguments).run ⟨scenario.writer, []⟩
  ⟨status, trail.writer.accepted, trail.log⟩

end Scenario

end Transcript.Program
