import Transcript.Text.Basic

/-! # Log events

What the log is told: how severe it is, where it comes from, and what happened.
-/

namespace Transcript.Log

/-- How severe an event is, the most severe first. -/
inductive Level where
  | error
  | warn
  | info
  | debug
  | trace
  deriving DecidableEq

namespace Level

/-- All levels. -/
def all : List Level := [error, warn, info, debug, trace]

/-- The name of a level. -/
def name : Level → Text
  | error => "ERROR".toList
  | warn => "WARN".toList
  | info => "INFO".toList
  | debug => "DEBUG".toList
  | trace => "TRACE".toList

/-- The place of a level among the levels, from one on. The less severe, the higher. -/
def rank : Level → Nat
  | error => 1
  | warn => 2
  | info => 3
  | debug => 4
  | trace => 5

end Level

/-- An event. -/
structure Event where
  level : Level
  /-- The part of the program it comes from. -/
  target : Text
  message : Text
  /-- Names and values that belong to the event. -/
  fields : List (Text × Text)
  deriving DecidableEq

namespace Event

/-- The names under which the parts of the event are known. -/
def fieldNames (event : Event) : List Text := "message".toList :: event.fields.map (·.1)

/-- The event as it is written. -/
def render (event : Event) : Text :=
  event.level.name ++ ' ' :: event.target ++ ": ".toList
    ++ Text.joinWith [' '] (event.message :: event.fields.map fun (name, value) =>
      name ++ '=' :: value)

end Event

end Transcript.Log
