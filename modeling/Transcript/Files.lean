import Transcript.Failure
import Transcript.Files.Path
import Transcript.Text.Utf8

/-! # Files

What the program asks of a file system, and a file system that is a value: a tree of
directories and files.
-/

namespace Transcript

/-- What may stand at a path. -/
inductive FileKind where
  | file
  | directory
  | other
  deriving DecidableEq

/-- A file system, asked in the monad `m`. -/
structure FileSystem (m : Type → Type) where
  /-- What stands at a path, if anything does. -/
  kind : Text → m (Option FileKind)
  /-- The bytes of a file. -/
  read : Text → m (Except IoError Bytes)
  /-- The absolute path of what stands at a path, if anything does. -/
  realPath : Text → m (Option Text)

namespace FileSystem

variable {m : Type → Type} [Monad m]

/-- Whether a file stands at a path. -/
def isFile (system : FileSystem m) (path : Text) : m Bool := do
  pure ((← system.kind path) = some .file)

/-- Whether a directory stands at a path. -/
def isDirectory (system : FileSystem m) (path : Text) : m Bool := do
  pure ((← system.kind path) = some .directory)

end FileSystem

/-- A file or a directory of a file tree. -/
inductive FileEntry where
  | directory
  | file (content : Bytes)
  deriving DecidableEq

/-- A file system as a value: its files and directories, each with the names that lead
to it from the root. A name on the way to an entry is a directory too. -/
structure FileTree where
  entries : List (List Text × FileEntry)

namespace FileTree

/-- What stands at a place. The root is always a directory. -/
def find? (tree : FileTree) (place : List Text) : Option FileEntry :=
  match tree.entries.lookup place with
  | some entry => some entry
  | none =>
    if place.isEmpty || tree.entries.any (place.isPrefixOf ·.1) then some .directory else none

/-- The longest name and the longest path, in bytes. -/
def maxName : Nat := 255

/-- The longest path, in bytes. -/
def maxPath : Nat := 4095

/-- Follows the pieces of a path from a place. Every piece, even an idle one, has to be
taken in a directory. -/
def follow (tree : FileTree) : (place : List Text) → List Text → Except IoError (List Text)
  | place, [] => .ok place
  | place, piece :: rest =>
    if tree.find? place != some .directory then .error .notADirectory
    else if Path.isIdle piece then tree.follow place rest
    else if piece = Path.up then tree.follow place.dropLast rest
    else if maxName < piece.utf8.length then .error .fileNameTooLong
    else if (tree.find? (place ++ [piece])).isNone then .error .noSuchFile
    else tree.follow (place ++ [piece]) rest

/-- The place a path leads to, for a current directory. -/
def locate (tree : FileTree) (current : List Text) (path : Text) :
    Except IoError (List Text) :=
  if path.isEmpty then .error .noSuchFile
  else if maxPath < path.utf8.length then .error .fileNameTooLong
  else tree.follow (if Path.isAbsolute path then [] else current) (Path.pieces path)

/-- What stands at a path. -/
def kind (tree : FileTree) (current : List Text) (path : Text) : Option FileKind :=
  match tree.locate current path with
  | .error _ => none
  | .ok place =>
    match tree.find? place with
    | some .directory => some .directory
    | some (.file _) => some .file
    | none => none

/-- The bytes of the file a path leads to. -/
def read (tree : FileTree) (current : List Text) (path : Text) : Except IoError Bytes :=
  match tree.locate current path with
  | .error error => .error error
  | .ok place =>
    match tree.find? place with
    | some (.file content) => .ok content
    | some .directory => .error .isADirectory
    | none => .error .noSuchFile

/-- The file system of a tree, for a current directory. -/
def system {m : Type → Type} [Monad m] (tree : FileTree) (current : List Text) :
    FileSystem m where
  kind path := pure (tree.kind current path)
  read path := pure (tree.read current path)
  realPath path := pure ((tree.locate current path).toOption.map Path.absolute)

end FileTree

end Transcript
