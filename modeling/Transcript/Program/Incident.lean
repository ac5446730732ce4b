import Transcript.Failure
import Transcript.Log.Event
import Transcript.Stream
import Transcript.Text.Number
import Transcript.Text.Quoted

/-! # Incidents

What happens in a run of the program that is worth a line in the log, and how it is
worded there.
-/

namespace Transcript

namespace Stats

/-- The counts with their names. -/
def describe (stats : Stats) : Text :=
  let entry (name : String) (count : Nat) : Text :=
    name.toList ++ ": ".toList ++ Text.decimalDigits count
  "FormatStats \x7b ".toList ++ Text.joinWith ", ".toList [
    entry "lines_in" stats.linesIn,
    entry "lines_out" stats.linesOut,
    entry "sections_dimmed" stats.sectionsDimmed,
    entry "lines_wrapped" stats.linesWrapped] ++ " \x7d".toList

end Stats

namespace Program

/-- The version of the program. -/
def version : Text := "0.1.0".toList

/-- What happens in a run. -/
inductive Incident where
  /-- The settings were read, from a file if there is a path. -/
  | settingsLoaded (path : Option Text)
  /-- The settings file cannot be used, so that no settings apply. -/
  | settingsIgnored (failure : Failure)
  /-- The options are known. -/
  | optionsResolved (options : Options) (toTerminal : Bool)
  /-- All input was read, so many lines. -/
  | inputRead (lines : Nat)
  /-- A decision about the lines was made. -/
  | decided (notice : Notice)
  /-- All output was written. -/
  | finished (stats : Stats)
  /-- Nobody reads the output any more. -/
  | outputClosed
  /-- The run could not be finished. -/
  | stopped (failure : Failure)

namespace Incident

/-- The log target of the program. -/
def mainTarget : Text := "plenary_fmt".toList

/-- The log target of what happens while lines are formatted. -/
def formattingTarget : Text := "plenary_fmt::driver".toList

/-- A truth value as it is written. -/
def describeFlag (flag : Bool) : Text := if flag then "true".toList else "false".toList

/-- A path that may be absent as it is written. -/
def describePath : Option Text → Text
  | none => "None".toList
  | some path => "Some(".toList ++ Text.quotedPath path ++ [')']

/-- What is written about an incident in the log. -/
def event : Incident → Log.Event
  | settingsLoaded path =>
    ⟨.debug, mainTarget, "config loaded".toList, [("path".toList, describePath path)]⟩
  | settingsIgnored failure =>
    ⟨.warn, mainTarget, "ignoring unreadable config".toList, [("error".toList, failure.message)]⟩
  | optionsResolved options toTerminal =>
    ⟨.debug, mainTarget, "options resolved".toList,
      [("version".toList, Text.quoted version),
        ("columns".toList, Text.decimalDigits options.columns),
        ("color".toList, describeFlag options.color),
        ("stdout_tty".toList, describeFlag toTerminal)]⟩
  | inputRead lines =>
    ⟨.debug, formattingTarget, "input read".toList, [("lines".toList, Text.decimalDigits lines)]⟩
  | decided (.dimming header) =>
    ⟨.trace, formattingTarget, "dimming empty section".toList,
      [("header".toList, Text.quoted header)]⟩
  | decided (.wrapping index parts) =>
    ⟨.trace, formattingTarget, "wrapping status line".toList,
      [("line".toList, Text.decimalDigits index), ("parts".toList, Text.decimalDigits parts)]⟩
  | finished stats => ⟨.debug, mainTarget, "done".toList, [("stats".toList, stats.describe)]⟩
  | outputClosed => ⟨.debug, mainTarget, "stdout closed early".toList, []⟩
  | stopped failure =>
    ⟨.warn, mainTarget, "stopped early".toList, [("error".toList, failure.message)]⟩

end Incident

end Program

end Transcript
