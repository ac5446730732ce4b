import Transcript.Document.Toml
import Transcript.Files.Path
import Transcript.Settings.Json
import Transcript.Settings.Yaml

/-! # The format of a settings file

The ending of its name tells in which format a settings file is written. How the scalars of TOML
are understood stands here, and the other formats have modules of their own.
-/

namespace Transcript

namespace Toml

/-- How the scalars of TOML are understood. There is no way to write that a value is
absent. -/
def reading : Reading Scalar where
  presence _ := .present
  size?
    | .integer value => if 0 ≤ value then some value.toNat else none
    | _ => none
  flag?
    | .flag value => some value
    | _ => none
  text?
    | .text content => some content
    | _ => none
  keyText?
    | .text content => some content
    | _ => none

/-- The settings of a TOML text. -/
def settings? (text : Text) : Option Settings := (parse? text).bind reading.ofEntries?

end Toml

namespace Settings

/-- The formats of a settings file. -/
inductive Format where
  | toml
  | yaml
  /-- JSON5, or else strict JSON. -/
  | json
  deriving DecidableEq

namespace Format

/-- The format that goes with the ending of a file name. Any ending that is not known
goes with JSON, and so does a name without one. -/
def ofExtension (extension : Option Text) : Format :=
  let ending := String.ofList ((extension.getD []).map Char.toLower)
  if ending = "toml" then toml
  else if ending = "yaml" || ending = "yml" then yaml
  else json

/-- The settings of a text in a format. -/
def settings? : Format → Text → Option Settings
  | toml, text => Toml.settings? text
  | yaml, text => Yaml.settings? text
  | json, text =>
    match Json5.settings? text with
    | some settings => some settings
    | none => Json.settings? text

end Format

end Settings

end Transcript
