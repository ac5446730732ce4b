import Transcript.Repository
import Transcript.Settings.Format
import Transcript.Terminal

/-! # Finding the settings

The settings come from the file a variable of the environment names, or else from the
first file with one of the usual names in the root of the work tree. Once a file is
chosen no other one is looked at, whatever is wrong with it.
-/

namespace Transcript.Settings

variable {m : Type → Type} [Monad m]

/-- The variable that names a settings file. -/
def fileVariable : String := "PLENARY_FMT_CONFIG"

/-- The usual names of a settings file, the first one first. -/
def usualNames : List Text :=
  ["plenary-fmt.toml".toList, "plenary-fmt.config.json".toList,
    "plenary-fmt.config.json5".toList, "plenary-fmt.config.yaml".toList,
    "plenary-fmt.config.yml".toList, ".plenary-fmtrc.json".toList,
    ".plenary-fmtrc.yaml".toList]

/-- The path the environment names, if it names one. -/
def namedPath? (environment : Environment) : Option Text :=
  (environment.trimmed fileVariable).filter (!·.isEmpty)

/-- The first of the paths at which a file stands. -/
def firstFile? (system : FileSystem m) : List Text → m (Option Text)
  | [] => pure none
  | path :: rest => do
    if ← system.isFile path then pure (some path) else firstFile? system rest

/-- The settings file in a directory. -/
def discover (system : FileSystem m) (directory : Text) : m (Option Text) :=
  firstFile? system (usualNames.map (Path.join directory))

/-- The settings file for a current directory. The root in which it is looked for is that of the
work tree, or any other one that `rootOf` finds. -/
def locate (system : FileSystem m) (environment : Environment) (directory : Text)
    (rootOf : FileSystem m → Text → m Text := Repository.rootOf) : m (Option Text) :=
  match namedPath? environment with
  | some path => pure (some path)
  | none => do discover system (← rootOf system directory)

/-- The settings in the bytes of the file at a path. What the reader of a format says about a text
that it does not accept is left out: the explanation is empty, and the message ends with the colon
before it. -/
def ofBytes (path : Text) (bytes : Bytes) : Except Failure Settings :=
  match Text.ofUtf8? bytes with
  | none => .error (.settingsFile path .notUtf8)
  | some text =>
    match (Format.ofExtension (Path.extension? path)).settings? text with
    | some settings => .ok settings
    | none => .error (.malformedSettings path [])

/-- The settings in the file at a path. -/
def ofFile (system : FileSystem m) (path : Text) : m (Except Failure Settings) := do
  match ← system.read path with
  | .ok bytes => pure (ofBytes path bytes)
  | .error error => pure (.error (.settingsFile path error))

/-- The settings for a current directory, with the path of the file they come from. As for `locate`,
`rootOf` finds the root. -/
def load (system : FileSystem m) (environment : Environment) (directory : Text)
    (rootOf : FileSystem m → Text → m Text := Repository.rootOf) :
    m (Except Failure (Settings × Option Text)) := do
  match ← locate system environment directory rootOf with
  | none => pure (.ok (empty, none))
  | some path => pure ((← ofFile system path).map fun settings => (settings, some path))

end Transcript.Settings
