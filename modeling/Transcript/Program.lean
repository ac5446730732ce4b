import Transcript.Delivery
import Transcript.Log.Filter
import Transcript.Program.Incident
import Transcript.Settings.Discovery

/-! # The program

A run finds the settings, resolves the options, formats the input to the output, and
logs what happens if it is asked to. It always ends with success, whatever goes wrong:
a settings file that cannot be used counts as none, and a reader that goes away or a
device that is full only ends the output.
-/

namespace Transcript.Program

variable {m : Type → Type} [Monad m]

/-- What the program finds where it runs. -/
structure Host (m : Type → Type) where
  /-- The current directory. -/
  directory : Text
  environment : Environment
  /-- The terminal the output goes to, if it goes to one. -/
  terminal : Option Terminal
  files : FileSystem m
  /-- Reads all input. There is none if the user interrupts the run before it ends. -/
  input : m (Option (Except IoError Bytes))
  /-- Writes a whole buffer to the output. -/
  write : Bytes → m (Except IoError Unit)
  /-- Hands on what the output holds back. -/
  flush : m (Except IoError Unit)
  /-- Writes a line to the log. -/
  log : Text → m Unit

/-- How a run ends. -/
inductive ExitStatus where
  | success
  | failure
  deriving DecidableEq

namespace ExitStatus

/-- The number a status is known by. -/
def code : ExitStatus → UInt32
  | success => 0
  | failure => 1

end ExitStatus

/-- The variable that holds the log filter. -/
def filterVariable : String := "PLENARY_FMT_LOG"

/-- The log filter of an environment. Without one, or with one that cannot be read,
nothing is logged. -/
def filter? (environment : Environment) : Option Log.Filter :=
  (environment filterVariable.toList).bind Log.Filter.ofText?

namespace Host

/-- Logs an incident if the log filter lets it through. -/
def note (host : Host m) (incident : Incident) : m Unit :=
  if (filter? host.environment).any (·.admits incident.event) then
    host.log incident.event.render
  else pure ()

/-- The settings for the current directory, or none if they cannot be used. -/
def settings (host : Host m) : m Settings := do
  match ← Settings.load host.files host.environment host.directory with
  | .ok (settings, path) => do
    host.note (.settingsLoaded path)
    pure settings
  | .error failure => do
    host.note (.settingsIgnored failure)
    pure Settings.empty

/-- The options of a run. -/
def options (host : Host m) : m Options := do
  let options := (← host.settings).options host.environment host.terminal
  host.note (.optionsResolved options host.terminal.isSome)
  pure options

/-- The output as formatted lines go to it. -/
def output (host : Host m) : Output m where
  write := host.write
  flush := host.flush
  begin lines := host.note (.inputRead lines)
  report notice := host.note (.decided notice)

/-- What is to be noted at the end of a run. -/
def conclusion : Except Failure Stats → Incident
  | .ok stats => .finished stats
  | .error failure => if failure.isDownstreamClosed then .outputClosed else .stopped failure

/-- Runs the program. The arguments are not looked at. -/
def run (host : Host m) (_arguments : List Text) : m ExitStatus := do
  let options ← host.options
  match ← host.input with
  | none => pure .success
  | some input => do
    host.note (conclusion (← options.run input host.output))
    pure .success

end Host

end Transcript.Program
