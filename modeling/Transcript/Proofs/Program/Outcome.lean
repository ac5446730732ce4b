import Transcript.Program.Scenario
import Transcript.Proofs.Delivery.Transport
import Transcript.Proofs.Settings.Lookup

/-!
# What the program leaves behind

A program that is not asked to log is the delivery of its input, formatted under the options
in force, and nothing else. It ends with success whatever befalls it. The options come from the
settings found, or from no settings at all when those found cannot be used.
-/

namespace Transcript.Program

/-- The settings in force when loading them came to this: those loaded, or none if it failed. -/
def settingsInForce (loaded : Except Failure (Settings × Option Text)) : Settings :=
  match loaded with
  | .ok (settings, _) => settings
  | .error _ => .empty

namespace Host

variable {m : Type → Type} [Monad m]

/-- No log is asked for. -/
def Unlogged (host : Host m) : Prop := host.environment filterVariable.toList = none

/-- The options of a run without a log. -/
def quietOptions (host : Host m) : m Options := do
  let loaded ← Settings.load host.files host.environment host.directory
  pure ((settingsInForce loaded).options host.environment host.terminal)

namespace Unlogged

variable {host : Host m}

theorem note_eq (hlog : host.Unlogged) (incident : Incident) : host.note incident = pure () := by
  have hfilter : filter? host.environment = none := by
    rw [filter?, hlog, Option.bind_none]
  rw [note, hfilter]
  rfl

variable [LawfulMonad m]

theorem options_eq (hlog : host.Unlogged) : host.options = host.quietOptions := by
  unfold options quietOptions settings
  simp only [hlog.note_eq, bind_assoc, pure_bind]
  congr 1
  funext loaded
  cases loaded <;> rw [pure_bind] <;> rfl

end Unlogged

/-- An interrupted run delivers nothing. -/
theorem run_of_interrupted [LawfulMonad m] {host : Host m} (hlog : host.Unlogged)
    (hinput : host.input = pure none) (arguments : List Text) :
    host.run arguments = (do
      let _ ← host.quietOptions
      pure .success) := by
  simp only [run, hlog.options_eq, hinput, pure_bind]

/-- A run whose input ends formats it to the output. -/
theorem run_of_input [LawfulMonad m] {host : Host m} (hlog : host.Unlogged)
    {input : Except IoError Bytes} (hinput : host.input = pure (some input))
    (arguments : List Text) :
    host.run arguments = (do
      let options ← host.quietOptions
      let _ ← options.run input host.output
      pure .success) := by
  simp only [run, hlog.options_eq, hinput, hlog.note_eq, pure_bind]

end Host

/-- Nothing was logged, and the output has come as far as this writer. -/
def Trail.Follows (trail : Trail) (writer : Writer) : Prop :=
  trail.writer = writer ∧ trail.log = []

theorem Trail.Follows.outcome_eq {trail : Trail} {writer : Writer} (hfollows : trail.Follows writer) :
    Outcome.mk .success trail.writer.accepted trail.log = ⟨.success, writer.accepted, []⟩ := by
  rw [hfollows.1, hfollows.2]

namespace Scenario

/-- The place where a run happens whose file system is no more than its answers. -/
def hostOn (scenario : Scenario) (answers : FileSystem Id) : Host (StateM Trail) :=
  { scenario.host with files := answers.answering }

/-- What such a run leaves behind. -/
def outcomeOn (scenario : Scenario) (answers : FileSystem Id) : Outcome :=
  let (status, trail) :=
    ((scenario.hostOn answers).run scenario.arguments).run ⟨scenario.writer, []⟩
  ⟨status, trail.writer.accepted, trail.log⟩

/-- The options in force in such a run. -/
def optionsOn (scenario : Scenario) (answers : FileSystem Id) : Options :=
  let loaded := Settings.load answers scenario.environment (Path.absolute scenario.directory)
  (settingsInForce loaded).options scenario.environment scenario.terminal

/-- A tree of files is no more than its answers. -/
theorem outcome_eq (scenario : Scenario) :
    scenario.outcome = scenario.outcomeOn (scenario.files.system scenario.directory) := rfl

variable {scenario : Scenario}

theorem quietOptions_eq (answers : FileSystem Id) :
    (scenario.hostOn answers).quietOptions = pure (scenario.optionsOn answers) := by
  rw [Host.quietOptions]
  change (do
    let loaded ← Settings.load (answers.answering : FileSystem (StateM Trail))
      scenario.environment (Path.absolute scenario.directory)
    pure ((settingsInForce loaded).options scenario.environment scenario.terminal)) = _
  rw [Settings.load_answering, pure_bind]
  rfl

theorem output_silent {answers : FileSystem Id} (hlog : (scenario.hostOn answers).Unlogged) :
    (scenario.hostOn answers).output.Silent :=
  ⟨fun _ => hlog.note_eq _, fun _ => hlog.note_eq _⟩

/-- Writing and flushing leaves the log alone, and the log has no influence on it. -/
theorem output_simulates (scenario : Scenario) (answers : FileSystem Id) :
    (scenario.hostOn answers).output.Simulates Writer.output Trail.Follows where
  write _ _ _ hrelated := hrelated.1 ▸ ⟨rfl, rfl, hrelated.2⟩
  flush _ _ hrelated := hrelated.1 ▸ ⟨rfl, rfl, hrelated.2⟩

/-- A run without a log leaves behind what delivering its input does. -/
theorem outcomeOn_of_input {answers : FileSystem Id} (hlog : (scenario.hostOn answers).Unlogged)
    {reads : List ReadStep} (hinput : scenario.input = some reads) :
    scenario.outcomeOn answers =
      ⟨.success, ((scenario.optionsOn answers).deliver reads scenario.writer).2.accepted, []⟩ := by
  have hread : (scenario.hostOn answers).input = pure (some (readAll reads)) := by
    change pure (scenario.input.map readAll) = _
    rw [hinput]
    rfl
  rw [outcomeOn, Host.run_of_input hlog hread, quietOptions_eq, pure_bind, StateT.run_bind,
    Options.deliver]
  cases readAll reads with
  | error error => rfl
  | ok bytes =>
      let lines := (Text.ofUtf8Lenient bytes).splitLines
      have hstart : Trail.Follows ⟨scenario.writer, []⟩ scenario.writer := ⟨rfl, rfl⟩
      obtain ⟨_, hlast⟩ := (scenario.output_simulates answers).writeAndFlush hstart
        ((scenario.optionsOn answers).formatLines lines)
      have hrun := (scenario.optionsOn answers).run_of_silent (output_silent hlog) bytes
        ⟨scenario.writer, []⟩
      have hdeliver := (scenario.optionsOn answers).run_of_silent Writer.output_silent bytes
        scenario.writer
      change _ = Outcome.mk .success
        (((scenario.optionsOn answers).run (.ok bytes) Writer.output).run scenario.writer).2.accepted
        []
      dsimp only at hrun hdeliver
      rw [hrun, hdeliver]
      exact hlast.outcome_eq

/-- A run without a log that is interrupted leaves nothing behind. -/
theorem outcomeOn_of_interrupted {answers : FileSystem Id}
    (hlog : (scenario.hostOn answers).Unlogged) (hinput : scenario.input = none) :
    scenario.outcomeOn answers = ⟨.success, scenario.writer.accepted, []⟩ := by
  have hread : (scenario.hostOn answers).input = pure none := by
    change pure (scenario.input.map readAll) = _
    rw [hinput]
    rfl
  rw [outcomeOn, Host.run_of_interrupted hlog hread, quietOptions_eq, pure_bind]
  rfl

/-- A run without a log, one way or the other. -/
theorem outcomeOn_of_unlogged {answers : FileSystem Id}
    (hlog : (scenario.hostOn answers).Unlogged) :
    scenario.outcomeOn answers = ⟨.success, (scenario.input.elim scenario.writer fun reads =>
      ((scenario.optionsOn answers).deliver reads scenario.writer).2).accepted, []⟩ := by
  cases hinput : scenario.input with
  | none => exact outcomeOn_of_interrupted hlog hinput
  | some reads => exact outcomeOn_of_input hlog hinput

/-- Without a log the program is the formatter, on every file system: the exit code is zero
and the log is empty, whatever the input and the output do, and the arguments have no
influence. The output holds the input, decoded and formatted under the options that belong to
the settings loaded, or to no settings at all if loading them failed for any reason. An input that
cannot be read leaves the output as it was. Running in a tree of files is a case of this. -/
theorem outcome_unlogged (scenario : Scenario)
    (hlog : scenario.environment filterVariable.toList = none) :
    scenario.outcome = scenario.outcomeOn (scenario.files.system scenario.directory) ∧
      ∀ answers : FileSystem Id,
        let loaded := Settings.load answers scenario.environment (Path.absolute scenario.directory)
        let options :=
          (settingsInForce loaded).options scenario.environment scenario.terminal
        let outcome := scenario.outcomeOn answers
        outcome.status.code = 0 ∧ outcome.log = [] ∧
          (∀ bytes reads steps, scenario.input = some reads → Brings bytes reads →
            scenario.writer = ⟨steps, .ok (), []⟩ → (∀ step ∈ steps, step.isBenign = true) →
            outcome.output = (options.formatText (Text.ofUtf8Lenient bytes)).utf8) ∧
          (∀ reads error, scenario.input = some reads → readAll reads = .error error →
            outcome.output = scenario.writer.accepted) ∧
          ∀ arguments, { scenario with arguments }.outcomeOn answers = outcome := by
  refine ⟨scenario.outcome_eq, ?_⟩
  intro answers loaded options outcome
  have hoptions : scenario.optionsOn answers = options := rfl
  have houtcome : outcome = _ := outcomeOn_of_unlogged hlog
  refine ⟨by rw [houtcome]; rfl, by rw [houtcome], ?_, ?_, ?_⟩
  · intro bytes reads steps hinput hbrings hwriter hbenign
    rw [houtcome, hinput, hwriter, hoptions]
    exact (options.deliver_eq_of_brings hbrings hbenign).2
  · intro reads error hinput hfailed
    rw [houtcome, hinput]
    change ((scenario.optionsOn answers).run (readAll reads) Writer.output scenario.writer).2.accepted
      = _
    rw [hfailed]
    rfl
  · intro arguments
    exact (outcomeOn_of_unlogged hlog).trans houtcome.symm

/-- A run whose current directory holds a settings file, in an environment of these entries. -/
def configured (entries : List (Text × Text)) : Scenario where
  files := ⟨[([['d'], "plenary-fmt.toml".toList], .file (Text.utf8 "columns = 4".toList))]⟩
  directory := [['d']]
  environment name := entries.lookup name
  arguments := [['-', 'h']]
  terminal := none
  input := some [.data (Text.utf8 "* a bc def\n".toList)]
  writer := ⟨[], .ok (), []⟩

/-- The environment names a settings file that is not there. -/
def misdirected : Scenario :=
  configured [(Settings.fileVariable.toList, ['x']), ("COLUMNS".toList, ['8'])]

/-- The environment names no settings file. -/
def directed : Scenario := configured [("COLUMNS".toList, ['8'])]

/-- Where loading the settings fails, the text is wrapped as without settings. Where the file is
found, its settings are in force. -/
theorem outcome_unlogged_configured :
    let bytes := Text.utf8 "* a bc def\n".toList
    Brings bytes [.data bytes] ∧
      (misdirected.environment filterVariable.toList = none ∧
        (Settings.load (m := Id) (misdirected.files.system misdirected.directory)
          misdirected.environment (Path.absolute misdirected.directory)).toOption = none ∧
        misdirected.outcome.status.code = 0 ∧ misdirected.outcome.log = [] ∧
        misdirected.outcome.output = Text.utf8 "* a bc\n  def\n".toList) ∧
      directed.environment filterVariable.toList = none ∧
      (Settings.load (m := Id) (directed.files.system directed.directory)
        directed.environment (Path.absolute directed.directory)).toOption =
          some ({ Settings.empty with columns := some 4 }, some "/d/plenary-fmt.toml".toList) ∧
      directed.outcome.status.code = 0 ∧ directed.outcome.log = [] ∧
      directed.outcome.output = Text.utf8 "* a\n  bc\n  def\n".toList := by
  intro bytes
  have hbrings : Brings bytes [.data bytes] := .data bytes (by decide) .nil
  refine ⟨hbrings, ?_, ?_⟩
  · have hlog : misdirected.environment filterVariable.toList = none := by decide
    obtain ⟨houtcome, hanswers⟩ := outcome_unlogged misdirected hlog
    obtain ⟨hcode, hempty, houtput, -⟩ :=
      hanswers (misdirected.files.system misdirected.directory)
    rw [houtcome]
    refine ⟨hlog, by decide, hcode, hempty, ?_⟩
    rw [houtput bytes _ [] rfl hbrings rfl (by decide)]
    decide +kernel
  · have hlog : directed.environment filterVariable.toList = none := by decide
    obtain ⟨houtcome, hanswers⟩ := outcome_unlogged directed hlog
    obtain ⟨hcode, hempty, houtput, -⟩ := hanswers (directed.files.system directed.directory)
    rw [houtcome]
    refine ⟨hlog, by decide +kernel, hcode, hempty, ?_⟩
    rw [houtput bytes _ [] rfl hbrings rfl (by decide)]
    decide +kernel

end Scenario

end Transcript.Program
