import Transcript.Files
import Transcript.Repository.Options

/-! # The work tree of a repository

A directory is a repository if it holds a head, objects and references. The one that
belongs to a directory is looked for there and in the directories above, each time first
under the usual name and then as the directory itself. Where it is found, its options
tell where the work tree is.
-/

namespace Transcript.Repository

variable {m : Type → Type} [Monad m]

/-- The usual name of a repository in its work tree. -/
def usualName : Text := ".git".toList

/-- A repository: its own directory, and the one it shares with other work trees. -/
structure Location where
  directory : Text
  shared : Text

/-- A name in a directory. -/
def within (directory : Text) (name : String) : Text := Path.join directory name.toList

/-- A short file as a text without blanks at its end. -/
def readLink (system : FileSystem m) (path : Text) : m (Option Text) := do
  match ← system.read path with
  | .ok bytes => pure (some (trimEnd (Text.ofUtf8Lenient bytes)))
  | .error _ => pure none

/-- The directory a repository shares with others, which is its own unless a file says
otherwise. -/
def sharedDirectory (system : FileSystem m) (directory : Text) : m (Option Text) := do
  if ← system.isFile (within directory "commondir") then
    match ← readLink system (within directory "commondir") with
    | some link => system.realPath (Path.join directory link)
    | none => pure none
  else pure (some directory)

/-- What a directory says about being a repository. -/
inductive Finding where
  /-- It is one. -/
  | repository (location : Location)
  /-- It is none. -/
  | nothing
  /-- It claims to be one and is not, so that there is no use in looking further. -/
  | broken

/-- Whether a directory is a repository. -/
def examine (system : FileSystem m) (directory : Text) : m Finding := do
  match ← sharedDirectory system directory with
  | none => pure .broken
  | some shared => do
    if !(← system.isFile (within directory "HEAD")) then pure .nothing
    else if !(← system.isDirectory (within shared "objects")) then pure .nothing
    else if !(← system.isDirectory (within shared "refs")) then pure .nothing
    else pure (.repository ⟨directory, shared⟩)

/-- What a file in the place of a repository has to begin with. -/
def linkMark : Text := "gitdir:".toList

/-- Follows a file that stands in the place of a repository. -/
def followLink (system : FileSystem m) (directory path : Text) : m Finding := do
  match ← readLink system path with
  | none => pure .broken
  | some content =>
    if linkMark.isPrefixOf content && linkMark.length < content.length then
      let target := (content.drop linkMark.length).dropWhile isBlank
      match ← system.realPath (Path.join directory target) with
      | none => pure .broken
      | some target =>
        match ← examine system target with
        | .repository location => pure (.repository location)
        | _ => pure .broken
    else pure .broken

/-- What is found in a directory: a repository under the usual name, or the directory as
a repository. -/
def examineBoth (system : FileSystem m) (directory : Text) : m Finding := do
  let inner := Path.join directory usualName
  let finding ← match ← system.kind inner with
    | some .directory => examine system inner
    | some .file => followLink system directory inner
    | _ => pure .nothing
  match finding with
  | .nothing => examine system directory
  | finding => pure finding

/-- The first repository in a list of directories. -/
def search (system : FileSystem m) : List Text → m Finding
  | [] => pure .nothing
  | directory :: rest => do
    match ← examineBoth system directory with
    | .nothing => search system rest
    | finding => pure finding

/-- A directory given by the names that lead to it, and the directories above it, without
the root. -/
def ancestors : (steps : Nat) → (names : List Text) → List Text
  | 0, _ => []
  | _, [] => []
  | steps + 1, names => Path.absolute names :: ancestors steps names.dropLast

/-- The repository a directory belongs to. -/
def discover (system : FileSystem m) (directory : Text) : m Finding := do
  match ← system.realPath directory with
  | none => pure .broken
  | some path =>
    let names := Path.steps path
    search system (if names.isEmpty then [path] else ancestors names.length names)

/-- The options in a file. A file that is not there holds none of them. -/
def optionsAt (system : FileSystem m) (path : Text) : m (Option Options) := do
  match ← system.kind path with
  | none => pure (some [])
  | some _ =>
    match ← system.read path with
    | .ok bytes => pure (Options.ofText? (Text.ofUtf8Lenient bytes))
    | .error _ => pure none

/-- Whether each work tree of a repository has options of its own. -/
def splitsOptions? (options : Options) : Option Bool :=
  match options.find? "extensions.worktreeconfig" with
  | none => some false
  | some value => Options.flag? value

/-- The options of a repository, with those of its work tree behind them if it has its own. -/
def readOptions (system : FileSystem m) (location : Location) : m (Option Options) := do
  match ← optionsAt system (within location.shared "config") with
  | none => pure none
  | some options =>
    match splitsOptions? options with
    | none => pure none
    | some false => pure (some options)
    | some true => do
      let later ← optionsAt system (within location.directory "config.worktree")
      pure (later.map (options ++ ·))

/-- The extensions that are understood. -/
def knownExtensions : List String :=
  ["extensions.noop", "extensions.objectformat", "extensions.preciousobjects",
    "extensions.worktreeconfig"]

/-- Whether a repository of this format is understood. -/
def isUnderstood (options : Options) : Bool :=
  match options.find? "core.repositoryformatversion" with
  | none => true
  | some none => false
  | some (some written) =>
    match Options.integer? written with
    | none => false
    | some version =>
      version = 0 || (version = 1 && options.all fun (name, value) =>
        !"extensions.".toList.isPrefixOf name
          || (name = "extensions.objectformat".toList && value = some "sha1".toList)
          || (name != "extensions.objectformat".toList
            && knownExtensions.any (·.toList = name)))

/-- The directory above a path. -/
def parent (path : Text) : Text := Path.absolute (Path.steps path).dropLast

/-- Whether a repository was made for one more work tree of another one. -/
def isLinked (system : FileSystem m) (location : Location) : m Bool := do
  if location.directory = location.shared then pure false
  else pure (← system.kind (within location.directory "gitdir")).isSome

/-- The work tree of a repository, if it has one. -/
def workTree (system : FileSystem m) (location : Location) : m (Option Text) := do
  match ← readOptions system location with
  | none => pure none
  | some options =>
    if !isUnderstood options then pure none
    else
      let linked ← isLinked system location
      match (options.find? "core.bare").map Options.flag? with
      | some none => pure none
      | bare =>
        if bare = some (some true) && !linked then pure none
        else if linked then
          match ← readLink system (within location.directory "gitdir") with
          | some link => pure (some (parent (Path.join location.directory link)))
          | none => pure none
        else match options.find? "core.worktree" with
          | some (some []) => pure none
          | some (some path) => system.realPath (Path.join location.directory path)
          | _ => pure (some (parent location.directory))

/-- The work tree a directory belongs to, or the directory itself if it belongs to none
that can be used. -/
def rootOf (system : FileSystem m) (directory : Text) : m Text := do
  match ← discover system directory with
  | .repository location =>
    match ← examineBoth system location.directory with
    | .repository location => do pure ((← workTree system location).getD directory)
    | _ => pure directory
  | _ => pure directory

end Transcript.Repository
