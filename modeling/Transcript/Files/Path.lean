import Transcript.Text.Basic

/-! # Paths

A path is a text in which slashes stand between names.
-/

namespace Transcript.Path

/-- The pieces of a path between its slashes, at least one. -/
def pieces (path : Text) : List Text := Text.piecesAt '/' path

/-- Whether a path begins at the root. -/
def isAbsolute (path : Text) : Bool := path.head? = some '/'

/-- Whether a piece leads nowhere else. -/
def isIdle (piece : Text) : Bool := piece = [] || piece = ['.']

/-- The pieces of a path that lead somewhere. -/
def steps (path : Text) : List Text := (pieces path).filter (!isIdle ·)

/-- The piece that leads to the parent. -/
def up : Text := ['.', '.']

/-- A path without its idle pieces, except for one at the beginning of a relative path. -/
def normalize (path : Text) : Text :=
  let names := steps path
  if isAbsolute path then '/' :: Text.joinWith ['/'] names
  else if (pieces path).head? = some ['.'] then Text.joinWith ['/'] (['.'] :: names)
  else Text.joinWith ['/'] names

/-- The path of `path` as seen from `base`. -/
def join (base path : Text) : Text :=
  if isAbsolute path || base.isEmpty then path
  else if base.getLast? = some '/' then base ++ path
  else base ++ '/' :: path

/-- An absolute path. -/
def absolute (names : List Text) : Text := '/' :: Text.joinWith ['/'] names

/-- The name a path ends with. -/
def fileName? (path : Text) : Option Text := (steps path).getLast?.filter (· != up)

/-- What stands after the last point of the name, if anything stands before it. -/
def extension? (path : Text) : Option Text :=
  match fileName? path with
  | none => none
  | some name =>
    let after := (name.reverse.takeWhile (· != '.')).reverse
    let before := name.take (name.length - after.length - 1)
    if before.isEmpty then none else some after

end Transcript.Path
