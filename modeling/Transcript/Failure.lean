import Transcript.Text.Basic

/-! # Failures

What can go wrong with files, input and output, and how it is worded.
-/

namespace Transcript

/-- The kinds of failure of an input or output operation. -/
inductive IoKind where
  | brokenPipe
  | connectionReset
  | fileNameTooLong
  | interrupted
  | invalidData
  | isADirectory
  | notADirectory
  | notFound
  | other
  | permissionDenied
  | storageFull
  | unexpectedEof
  | wouldBlock
  | writeZero
  deriving DecidableEq

namespace IoKind

/-- The wording of a failure that has no message of its own. -/
def message : IoKind → Text
  | brokenPipe => "broken pipe".toList
  | connectionReset => "connection reset".toList
  | fileNameTooLong => "invalid filename".toList
  | interrupted => "operation interrupted".toList
  | invalidData => "invalid data".toList
  | isADirectory => "is a directory".toList
  | notADirectory => "not a directory".toList
  | notFound => "entity not found".toList
  | other => "other error".toList
  | permissionDenied => "permission denied".toList
  | storageFull => "no storage space".toList
  | unexpectedEof => "unexpected end of file".toList
  | wouldBlock => "operation would block".toList
  | writeZero => "write zero".toList

end IoKind

/-- A failed input or output operation. -/
structure IoError where
  kind : IoKind
  message : Text
  deriving DecidableEq

namespace IoError

/-- A failure worded as its kind. -/
def ofKind (kind : IoKind) : IoError := ⟨kind, kind.message⟩

/-- Whether the operation is to be tried again. -/
def isInterrupted (error : IoError) : Bool := error.kind = .interrupted

/-- A writer took none of a buffer that was not empty. -/
def nothingWritten : IoError := ⟨.writeZero, "failed to write whole buffer".toList⟩

/-- The bytes of a file are not UTF-8. -/
def notUtf8 : IoError := ⟨.invalidData, "stream did not contain valid UTF-8".toList⟩

/-- A path leads nowhere. -/
def noSuchFile : IoError := ⟨.notFound, "No such file or directory (os error 2)".toList⟩

/-- A path leads through something that is no directory. -/
def notADirectory : IoError := ⟨.notADirectory, "Not a directory (os error 20)".toList⟩

/-- A directory was to be read as a file. -/
def isADirectory : IoError := ⟨.isADirectory, "Is a directory (os error 21)".toList⟩

/-- The device has no room left. -/
def noSpaceLeft : IoError := ⟨.storageFull, "No space left on device (os error 28)".toList⟩

/-- Nobody reads from the pipe any more. -/
def brokenPipe : IoError := ⟨.brokenPipe, "Broken pipe (os error 32)".toList⟩

/-- A name in a path is too long. -/
def fileNameTooLong : IoError := ⟨.fileNameTooLong, "File name too long (os error 36)".toList⟩

end IoError

/-- What ends a run, or keeps the settings from being used. -/
inductive Failure where
  /-- The settings file could not be read. -/
  | settingsFile (path : Text) (cause : IoError)
  /-- The settings file is not what its format demands. -/
  | malformedSettings (path : Text) (explanation : Text)
  /-- The input could not be read. -/
  | input (cause : IoError)
  /-- The output could not be written. -/
  | output (cause : IoError)
  deriving DecidableEq

namespace Failure

/-- The wording of a failure. -/
def message : Failure → Text
  | settingsFile path cause => "io error at ".toList ++ path ++ ": ".toList ++ cause.message
  | malformedSettings path explanation =>
    "failed to parse config at ".toList ++ path ++ ": ".toList ++ explanation
  | input cause => "failed to read input: ".toList ++ cause.message
  | output cause => "failed to write output: ".toList ++ cause.message

/-- The operation that failed, if one did. -/
def cause? : Failure → Option IoError
  | settingsFile _ cause => some cause
  | malformedSettings _ _ => none
  | input cause => some cause
  | output cause => some cause

/-- Whether the reader of the output has gone away. -/
def isDownstreamClosed : Failure → Bool
  | output cause => cause.kind = .brokenPipe
  | _ => false

end Failure

end Transcript
