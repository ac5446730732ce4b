import Transcript.Settings
import Transcript.Text.Number

/-! # Terminal and environment

How wide the output is and whether it is coloured, from the settings, the environment
and the terminal, in this order.
-/

namespace Transcript

/-- The environment variables, each with its value if it is set. -/
abbrev Environment := Text → Option Text

/-- The size of the terminal the output goes to. -/
structure Terminal where
  columns : Nat
  rows : Nat
  deriving DecidableEq

namespace Terminal

/-- The size of a terminal, if it is a size at all. -/
def size? (terminal : Terminal) : Option Terminal :=
  if 0 < terminal.columns ∧ 0 < terminal.rows then some terminal else none

end Terminal

/-- A number, unless it is zero. -/
def positive? (n : Option Nat) : Option Nat := n.filter (0 < ·)

/-- The columns of the output: the first positive number among the forced width, the
number written in the environment and the width detected, or else the fallback. -/
def resolveColumns (forced : Option Nat) (written : Option Text) (detected : Option Nat)
    (fallback : Nat) : Nat :=
  (((positive? forced).or (positive? (written.bind (·.trim.size?)))).or
    (positive? detected)).getD fallback

namespace Environment

/-- The value of a variable without white space at its ends. -/
def trimmed (environment : Environment) (name : String) : Option Text :=
  (environment name.toList).map Text.trim

/-- Whether colour is asked for, or refused, by force. -/
def forcedColor (environment : Environment) : Option Bool :=
  match environment.trimmed "FORCE_COLOR" with
  | none => none
  | some [] => none
  | some value => some (value != ['0'])

/-- Whether a variable refuses colour. -/
def refusesColor (environment : Environment) : Bool :=
  (environment.trimmed "NO_COLOR").any (!·.isEmpty)
    || environment.trimmed "CLICOLOR" == some ['0']

/-- Whether the terminal is said to have no abilities. -/
def isDumb (environment : Environment) : Bool :=
  environment.trimmed "TERM" == some "dumb".toList

end Environment

/-- Whether the output is coloured. It is unless someone objects: the settings are heard
first, then the variables that refuse colour, then a terminal without abilities, which
force overrules, then force. -/
def resolveColor (forced : Option Bool) (environment : Environment) : Bool :=
  match forced with
  | some color => color
  | none =>
    if environment.refusesColor then false
    else if environment.isDumb && environment.forcedColor != some true then false
    else environment.forcedColor.getD true

namespace Settings

/-- The options under the settings, for an environment and the terminal the output goes
to, if it goes to one. -/
def options (settings : Settings) (environment : Environment) (terminal : Option Terminal) :
    Options where
  columns := resolveColumns settings.columns (environment "COLUMNS".toList)
    ((terminal.bind Terminal.size?).map Terminal.columns) settings.fallbackColumns
  color := resolveColor settings.color environment
  heuristics := settings.heuristics

end Settings

end Transcript
