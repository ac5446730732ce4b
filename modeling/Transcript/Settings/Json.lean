import Transcript.Document.Json
import Transcript.Document.Json5
import Transcript.Settings.Reading

/-! # Settings in JSON and JSON5

A text is read as JSON5 first, and as strict JSON if that fails for any reason. The two
differ in more than notation: JSON5 reads a size as a floating-point number, and has its
own way with pairs of surrogates.
-/

namespace Transcript

namespace Json

/-- The size a number stands for: it is written with digits only. -/
def size? (written : Text) : Option Nat := (Text.numeral? 10 written).filter (· ≤ maxSize)

/-- How the scalars of strict JSON are understood. -/
def reading : Reading Scalar where
  presence
    | .null => .absent
    | _ => .present
  size?
    | .number written => size? written
    | _ => none
  flag?
    | .flag value => some value
    | _ => none
  text?
    | .string pieces => Piece.text? Piece.utf16Pair pieces
    | _ => none
  keyText?
    | .string pieces => Piece.text? Piece.utf16Pair pieces
    | _ => none

/-- The settings of a strict JSON text. A list has to hold exactly one value for each
setting. -/
def settings? (text : Text) : Option Settings :=
  match parse? text with
  | some (.mapping entries) => reading.ofEntries? entries
  | some (.sequence items) =>
    if items.length = SettingKey.all.length then reading.ofItems? items else none
  | _ => none

end Json

namespace Json5

/-- How the scalars of JSON5 are understood. -/
def reading : Reading Scalar where
  presence value := if value.plainWord? = some "null".toList then .absent else .present
  size? value := value.written?.bind size?
  flag? value :=
    match value.plainWord? with
    | none => none
    | some word =>
      if word = "true".toList then some true
      else if word = "false".toList then some false
      else none
  text? := Scalar.text?
  keyText? := Scalar.keyText?
  isOrdinary value :=
    match value.written? with
    | some written => isOrdinary written
    | none => value.keyText?.isSome

/-- The settings of a JSON5 text. A list may hold more values than there are settings. -/
def settings? (text : Text) : Option Settings :=
  match parse? text with
  | some (.mapping entries) => reading.ofEntries? entries
  | some (.sequence items) => reading.ofItems? items
  | _ => none

end Json5

end Transcript
