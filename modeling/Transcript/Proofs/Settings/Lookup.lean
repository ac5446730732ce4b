import Transcript.Settings.Discovery

/-!
# Looking for the settings only asks

A file system may be no more than its answers. Looking for the settings in it, the search for
the repository included, is then a function of these answers, in whatever monad it is done.
-/

namespace Transcript

variable {m : Type → Type} [Monad m]

namespace FileSystem

/-- The file system of which nothing is known but its answers. -/
def answering (answers : FileSystem Id) : FileSystem m where
  kind path := pure (answers.kind path)
  read path := pure (answers.read path)
  realPath path := pure (answers.realPath path)

end FileSystem

variable [LawfulMonad m] (answers : FileSystem Id)

/-- What goes on with an answer, and without an effect, is a function of the answer. -/
theorem bind_answered {α β : Type} {ask : m α} {answer : Id α} {next : α → m β} {after : α → Id β}
    (hask : ask = pure answer) (hnext : ∀ value, next value = pure (after value)) :
    ask >>= next = pure (answer >>= after) := by
  rw [hask, pure_bind]
  exact hnext answer

namespace FileSystem

theorem isFile_answering (path : Text) :
    (answers.answering : FileSystem m).isFile path = pure (answers.isFile path) :=
  bind_answered rfl fun _ => rfl

theorem isDirectory_answering (path : Text) :
    (answers.answering : FileSystem m).isDirectory path = pure (answers.isDirectory path) :=
  bind_answered rfl fun _ => rfl

end FileSystem

open FileSystem

namespace Repository

/-- What goes on with a finding is looked at for each sort of finding. -/
theorem bind_finding {α : Type} {ask : m Finding} {answer : Id Finding} {next : Finding → m α}
    {after : Finding → Id α} (hask : ask = pure answer)
    (hnothing : next .nothing = pure (after .nothing))
    (hrepository : ∀ location, next (.repository location) = pure (after (.repository location)))
    (hbroken : next .broken = pure (after .broken)) :
    ask >>= next = pure (answer >>= after) := by
  refine bind_answered hask fun finding => ?_
  cases finding with
  | repository location => exact hrepository location
  | nothing => exact hnothing
  | broken => exact hbroken

theorem readLink_answering (path : Text) :
    readLink (answers.answering : FileSystem m) path = pure (readLink answers path) := by
  refine bind_answered rfl fun result => ?_
  cases result <;> rfl

theorem sharedDirectory_answering (directory : Text) :
    sharedDirectory (answers.answering : FileSystem m) directory =
      pure (sharedDirectory answers directory) := by
  refine bind_answered (isFile_answering answers _) fun found => ?_
  cases found with
  | false => rfl
  | true =>
      refine bind_answered (readLink_answering answers _) fun link => ?_
      cases link <;> rfl

theorem examine_answering (directory : Text) :
    examine (answers.answering : FileSystem m) directory = pure (examine answers directory) := by
  refine bind_answered (sharedDirectory_answering answers _) fun shared => ?_
  cases shared with
  | none => rfl
  | some shared =>
      refine bind_answered (isFile_answering answers _) fun head => ?_
      cases head with
      | false => rfl
      | true =>
          refine bind_answered (isDirectory_answering answers _) fun objects => ?_
          cases objects with
          | false => rfl
          | true =>
              refine bind_answered (isDirectory_answering answers _) fun references => ?_
              cases references <;> rfl

theorem followLink_answering (directory path : Text) :
    followLink (answers.answering : FileSystem m) directory path =
      pure (followLink answers directory path) := by
  refine bind_answered (readLink_answering answers _) fun link => ?_
  cases link with
  | none => rfl
  | some content =>
      dsimp only
      split
      · refine bind_answered rfl fun target => ?_
        cases target with
        | none => rfl
        | some target => exact bind_finding (examine_answering answers _) rfl (fun _ => rfl) rfl
      · rfl

theorem examineBoth_answering (directory : Text) :
    examineBoth (answers.answering : FileSystem m) directory =
      pure (examineBoth answers directory) := by
  have hexamine := examine_answering (m := m) answers directory
  refine bind_answered rfl fun kind => ?_
  obtain _ | _ | _ | _ := kind
  · exact bind_finding rfl hexamine (fun _ => rfl) rfl
  · exact bind_finding (followLink_answering answers _ _) hexamine (fun _ => rfl) rfl
  · exact bind_finding (examine_answering answers _) hexamine (fun _ => rfl) rfl
  · exact bind_finding rfl hexamine (fun _ => rfl) rfl

theorem search_answering (directories : List Text) :
    search (answers.answering : FileSystem m) directories = pure (search answers directories) := by
  induction directories with
  | nil => rfl
  | cons directory rest ih =>
      exact bind_finding (examineBoth_answering answers _) ih (fun _ => rfl) rfl

theorem discover_answering (directory : Text) :
    discover (answers.answering : FileSystem m) directory = pure (discover answers directory) := by
  refine bind_answered rfl fun path => ?_
  cases path with
  | none => rfl
  | some path => exact search_answering answers _

theorem optionsAt_answering (path : Text) :
    optionsAt (answers.answering : FileSystem m) path = pure (optionsAt answers path) := by
  refine bind_answered rfl fun kind => ?_
  cases kind with
  | none => rfl
  | some kind =>
      refine bind_answered rfl fun result => ?_
      cases result <;> rfl

theorem readOptions_answering (location : Location) :
    readOptions (answers.answering : FileSystem m) location =
      pure (readOptions answers location) := by
  refine bind_answered (optionsAt_answering answers _) fun options => ?_
  cases options with
  | none => rfl
  | some options =>
      dsimp only
      split
      · rfl
      · rfl
      · exact bind_answered (optionsAt_answering answers _) fun _ => rfl

theorem isLinked_answering (location : Location) :
    isLinked (answers.answering : FileSystem m) location = pure (isLinked answers location) := by
  unfold isLinked
  split
  · rfl
  · exact bind_answered rfl fun _ => rfl

theorem workTree_answering (location : Location) :
    workTree (answers.answering : FileSystem m) location = pure (workTree answers location) := by
  refine bind_answered (readOptions_answering answers _) fun options => ?_
  cases options with
  | none => rfl
  | some options =>
      dsimp only
      split
      · rfl
      · refine bind_answered (isLinked_answering answers _) fun linked => ?_
        -- What is left to ask depends on the options alone.
        split
        · rfl
        · split
          · rfl
          · split
            · refine bind_answered (readLink_answering answers _) fun link => ?_
              cases link <;> rfl
            · split <;> rfl

theorem rootOf_answering (directory : Text) :
    rootOf (answers.answering : FileSystem m) directory = pure (rootOf answers directory) := by
  refine bind_finding (discover_answering answers _) rfl (fun location => ?_) rfl
  refine bind_finding (examineBoth_answering answers _) rfl (fun location => ?_) rfl
  exact bind_answered (workTree_answering answers _) fun _ => rfl

end Repository

namespace Settings

theorem firstFile?_answering (paths : List Text) :
    firstFile? (answers.answering : FileSystem m) paths = pure (firstFile? answers paths) := by
  induction paths with
  | nil => rfl
  | cons path rest ih =>
      refine bind_answered (isFile_answering answers _) fun found => ?_
      cases found with
      | false => exact ih
      | true => rfl

theorem locate_answering (environment : Environment) (directory : Text) :
    locate (answers.answering : FileSystem m) environment directory =
      pure (locate answers environment directory) := by
  unfold locate
  split
  · rfl
  · exact bind_answered (Repository.rootOf_answering answers _) fun _ =>
      firstFile?_answering answers _

theorem ofFile_of_read {system : FileSystem m} {path : Text} {bytes : Bytes}
    (hread : system.read path = pure (.ok bytes)) :
    ofFile system path = pure (ofBytes path bytes) := by
  rw [ofFile, hread, pure_bind]

theorem ofFile_of_read_error {system : FileSystem m} {path : Text} {cause : IoError}
    (hread : system.read path = pure (.error cause)) :
    ofFile system path = pure (.error (.settingsFile path cause)) := by
  rw [ofFile, hread, pure_bind]

theorem ofFile_answering (path : Text) :
    ofFile (answers.answering : FileSystem m) path = pure (ofFile answers path) := by
  refine bind_answered rfl fun result => ?_
  cases result <;> rfl

/-- Looking for the settings has no effect but asking the file system, and what it finds is
what the answers say. -/
theorem load_answering (environment : Environment) (directory : Text) :
    load (answers.answering : FileSystem m) environment directory =
      pure (load answers environment directory) := by
  refine bind_answered (locate_answering answers _ _) fun path => ?_
  cases path with
  | none => rfl
  | some path => exact bind_answered (ofFile_answering answers _) fun _ => rfl

end Settings

end Transcript
