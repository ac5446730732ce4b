import Transcript.Program

/-! # The command line

The program as a command: its host is the running system, with the standard streams for
input, output and log.
-/

namespace Transcript.Program.System

/-- The kind of failure that goes with a number of the operating system. -/
def kindOfNumber (number : UInt32) : IoKind :=
  match number.toNat with
  | 2 => .notFound
  | 4 => .interrupted
  | 13 => .permissionDenied
  | 20 => .notADirectory
  | 21 => .isADirectory
  | 28 => .storageFull
  | 32 => .brokenPipe
  | 36 => .fileNameTooLong
  | _ => .other

/-- A failure with its number and the wording of the operating system. -/
def numbered (number : UInt32) (wording : String) : IoError :=
  ⟨kindOfNumber number,
    wording.toList ++ " (os error ".toList ++ Text.decimalDigits number.toNat ++ [')']⟩

/-- What an operation of the running system fails with. -/
def failureOf : IO.Error → IoError
  | .noFileOrDirectory _ number wording => numbered number wording
  | .interrupted _ number wording => numbered number wording
  | .alreadyExists _ number wording => numbered number wording
  | .invalidArgument _ number wording => numbered number wording
  | .permissionDenied _ number wording => numbered number wording
  | .resourceExhausted _ number wording => numbered number wording
  | .inappropriateType _ number wording => numbered number wording
  | .noSuchThing _ number wording => numbered number wording
  | .otherError number wording => numbered number wording
  | .resourceBusy number wording => numbered number wording
  | .resourceVanished number wording => numbered number wording
  | .unsupportedOperation number wording => numbered number wording
  | .hardwareFault number wording => numbered number wording
  | .unsatisfiedConstraints number wording => numbered number wording
  | .illegalOperation number wording => numbered number wording
  | .protocolError number wording => numbered number wording
  | .timeExpired number wording => numbered number wording
  | .unexpectedEof => .ofKind .unexpectedEof
  | .userError wording => ⟨.other, wording.toList⟩

/-- Runs an operation and tells whether it failed. -/
def attempt {α : Type} (operation : IO α) : IO (Except IoError α) := do
  try
    pure (.ok (← operation))
  catch error =>
    pure (.error (failureOf error))

/-- The files of the running system. -/
def files : FileSystem IO where
  kind path := do
    match ← attempt (do ((← IO.currentDir) / String.ofList path).metadata) with
    | .error _ => pure none
    | .ok data => pure (some (match data.type with
        | .dir => .directory
        | .file => .file
        | _ => .other))
  read path := attempt do
    let bytes ← IO.FS.readBinFile (String.ofList path)
    pure bytes.toList
  realPath path := do
    match ← attempt (IO.FS.realPath (String.ofList path)) with
    | .error _ => pure none
    | .ok found => pure (some found.toString.toList)

/-- Reads what is left of a stream, after what was taken already. -/
partial def readRest (stream : IO.FS.Stream) (taken : ByteArray) : IO ByteArray := do
  let bytes ← stream.read 65536
  if bytes.isEmpty then pure taken else readRest stream (taken ++ bytes)

/-- The variables of the environment that are set, among those the program looks at. -/
def environment : IO Environment := do
  let names := ["COLUMNS", "NO_COLOR", "CLICOLOR", "TERM", "FORCE_COLOR", Settings.fileVariable,
    filterVariable]
  let values ← names.mapM fun name => do
    pure (name.toList, (← IO.getEnv name).map String.toList)
  pure fun name => (values.lookup name).join

/-- The running system. The size of its terminal cannot be asked for. -/
def host : IO (Host IO) := do
  let input ← IO.getStdin
  let output ← IO.getStdout
  let log ← IO.getStderr
  pure {
    directory := (← IO.currentDir).toString.toList
    environment := ← environment
    terminal := if ← output.isTty then some ⟨0, 0⟩ else none
    files
    input := do
      let bytes ← attempt (readRest input ByteArray.empty)
      pure (some (bytes.map ByteArray.toList))
    write := fun bytes => attempt do
      output.write ⟨bytes.toArray⟩
      output.flush
    flush := attempt output.flush
    log := fun line => log.putStr (String.ofList (Text.endLine line)) }

end Transcript.Program.System

/-- The command. -/
def main (arguments : List String) : IO UInt32 := do
  let host ← Transcript.Program.System.host
  pure (← host.run (arguments.map String.toList)).code
