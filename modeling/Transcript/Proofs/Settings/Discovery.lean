import Transcript.Proofs.Files
import Transcript.Proofs.Settings.Lookup

/-!
# Which settings file counts

One file is chosen before any file is read: the one the environment names, or else the first file
with one of the usual names in the root of the work tree. Whatever is wrong with the file chosen,
no other one takes its place, and no other one has any influence. How the root is found does not
matter for any of this.
-/

namespace Transcript

namespace Failure

/-- The settings file a failure is about. -/
def settingsFile? : Failure → Option Text
  | settingsFile path _ => some path
  | malformedSettings path _ => some path
  | input _ => none
  | output _ => none

/-- A failure with a settings file names it. -/
theorem infix_message {failure : Failure} {path : Text}
    (hfile : failure.settingsFile? = some path) : path <:+: failure.message := by
  cases failure with
  | settingsFile file cause =>
      obtain rfl := Option.some.inj hfile
      exact ⟨_, _, (List.append_assoc _ _ _).symm⟩
  | malformedSettings file explanation =>
      obtain rfl := Option.some.inj hfile
      exact ⟨_, _, (List.append_assoc _ _ _).symm⟩
  | input => cases hfile
  | output => cases hfile

end Failure

namespace Settings

/-- The environment names a file: its path is all that the variable holds, white space at the
ends apart. -/
def Names (environment : Environment) (path : Text) : Prop :=
  ∃ value, environment fileVariable.toList = some value ∧ value.trim = path ∧ path ≠ []

theorem namedPath?_eq_some_iff {environment : Environment} {path : Text} :
    namedPath? environment = some path ↔ Names environment path := by
  rw [namedPath?, Environment.trimmed, Option.filter_eq_some_iff, Option.map_eq_some_iff]
  simp only [Names, Bool.not_eq_true', List.isEmpty_eq_false_iff, ne_eq]
  constructor
  · rintro ⟨⟨value, hvalue, htrim⟩, hne⟩
    exact ⟨value, hvalue, htrim, hne⟩
  · rintro ⟨value, hvalue, htrim, hne⟩
    exact ⟨⟨value, hvalue, htrim⟩, hne⟩

/-- The environment names no file: the variable is not set, or there is nothing but white space in
it. -/
def NamesNone (environment : Environment) : Prop :=
  ∀ value, environment fileVariable.toList = some value → value.trim = []

theorem namedPath?_eq_none_iff {environment : Environment} :
    namedPath? environment = none ↔ NamesNone environment := by
  simp only [namedPath?, Environment.trimmed, Option.filter_eq_none_iff, Option.map_eq_some_iff,
    forall_exists_index, and_imp, forall_apply_eq_imp_iff₂, Bool.not_eq_true', Bool.not_eq_false,
    List.isEmpty_iff, NamesNone]

variable {system : FileSystem Id} {environment : Environment} {directory root path : Text}
  {rootOf : FileSystem Id → Text → Id Text}

/-! ## The file that is chosen -/

/-- The first of the usual names at which a file stands in a directory, between the names before
and behind it. -/
structure FirstFile (system : FileSystem Id) (root : Text) (earlier : List Text) (name : Text)
    (later : List Text) : Prop where
  names_eq : usualNames = earlier ++ name :: later
  found : system.kind (Path.join root name) = some .file
  missed : ∀ other ∈ earlier, system.kind (Path.join root other) ≠ some .file

theorem isFile_eq_true_iff :
    (system.isFile path).run = true ↔ system.kind path = some .file := decide_eq_true_iff

theorem firstFile?_eq_find? (paths : List Text) :
    firstFile? system paths = paths.find? fun path => (system.isFile path).run := by
  induction paths with
  | nil => rfl
  | cons path rest ih =>
      rw [List.find?_cons, ← ih]
      cases hfile : (system.isFile path).run with
      | true =>
          have hanswer : system.isFile path = pure true := hfile
          rw [firstFile?, hanswer]
          rfl
      | false =>
          have hanswer : system.isFile path = pure false := hfile
          rw [firstFile?, hanswer]
          rfl

theorem FirstFile.discover_eq {earlier later : List Text} {name : Text}
    (hfirst : FirstFile system root earlier name later) :
    discover system root = some (Path.join root name) := by
  have hname : (usualNames.find? fun name => (system.isFile (Path.join root name)).run) =
      some name := by
    refine List.find?_eq_some_iff_append.mpr
      ⟨isFile_eq_true_iff.mpr hfirst.found, earlier, later, hfirst.names_eq, ?_⟩
    intro other hother
    rw [Bool.not_eq_true', Bool.eq_false_iff, ne_eq, isFile_eq_true_iff]
    exact hfirst.missed other hother
  rw [discover, firstFile?_eq_find?, List.find?_map]
  exact congrArg (Option.map (Path.join root)) hname

theorem discover_eq_none_iff :
    discover system root = none ↔
      ∀ name ∈ usualNames, system.kind (Path.join root name) ≠ some .file := by
  rw [discover, firstFile?_eq_find?, List.find?_eq_none, List.forall_mem_map]
  simp only [isFile_eq_true_iff, ne_eq]

theorem locate_of_names (hnames : Names environment path) :
    locate system environment directory rootOf = some path := by
  rw [locate, namedPath?_eq_some_iff.mpr hnames]
  rfl

theorem locate_of_namesNone (hunnamed : NamesNone environment) :
    locate system environment directory rootOf = discover system (rootOf system directory) := by
  rw [locate, namedPath?_eq_none_iff.mpr hunnamed]
  rfl

/-- The settings file that counts: the one that the environment names, or else the first file with
one of the usual names in the root. -/
inductive Chosen (system : FileSystem Id) (environment : Environment) (root : Text) : Text → Prop where
  | named {path : Text} (hnames : Names environment path) : Chosen system environment root path
  | usual {earlier later : List Text} {name : Text} (hunnamed : NamesNone environment)
    (hfirst : FirstFile system root earlier name later) :
    Chosen system environment root (Path.join root name)

theorem Chosen.locate_eq (hchosen : Chosen system environment (rootOf system directory) path) :
    locate system environment directory rootOf = some path := by
  cases hchosen with
  | named hnames => exact locate_of_names hnames
  | usual hunnamed hfirst => exact (locate_of_namesNone hunnamed).trans hfirst.discover_eq

theorem locate_eq_none_iff :
    locate system environment directory rootOf = none ↔ NamesNone environment ∧
      ∀ name ∈ usualNames,
        system.kind (Path.join (rootOf system directory) name) ≠ some .file := by
  rw [← discover_eq_none_iff, ← namedPath?_eq_none_iff]
  cases hnamed : namedPath? environment with
  | none =>
      rw [locate_of_namesNone (namedPath?_eq_none_iff.mp hnamed)]
      exact (and_iff_right rfl).symm
  | some path =>
      rw [locate_of_names (namedPath?_eq_some_iff.mp hnamed)]
      exact iff_of_false nofun fun hnone => nomatch hnone.1

theorem load_of_locate_eq_some
    (hlocate : locate system environment directory rootOf = some path) :
    load system environment directory rootOf =
      (ofFile system path).map fun settings => (settings, some path) := by
  have hanswer : locate system environment directory rootOf = pure (some path) := hlocate
  rw [load, hanswer]
  rfl

theorem load_of_locate_eq_none (hlocate : locate system environment directory rootOf = none) :
    load system environment directory rootOf = .ok (empty, none) := by
  have hanswer : locate system environment directory rootOf = pure none := hlocate
  rw [load, hanswer]
  rfl

theorem load_eq_empty_iff :
    load system environment directory rootOf = .ok (empty, none) ↔
      locate system environment directory rootOf = none := by
  refine ⟨?_, load_of_locate_eq_none⟩
  intro hload
  cases hlocate : locate system environment directory rootOf with
  | none => rfl
  | some path =>
      rw [load_of_locate_eq_some hlocate] at hload
      cases hfile : ofFile system path <;> rw [hfile] at hload <;> cases hload

/-! ## What the file chosen comes to -/

/-- The file at a path lays down settings: it can be read, it holds a text, and the settings are
those of the text in the format that goes with the ending of the path. -/
def LaysDown (system : FileSystem Id) (path : Text) (settings : Settings) : Prop :=
  ∃ bytes text, system.read path = .ok bytes ∧ Text.ofUtf8? bytes = some text ∧
    (Format.ofExtension (Path.extension? path)).settings? text = some settings

theorem ofFile_congr {other : FileSystem Id} (hread : other.read path = system.read path) :
    ofFile other path = ofFile system path := by
  rw [ofFile, ofFile, hread]

theorem ofBytes_eq_ok_iff {bytes : Bytes} {settings : Settings} :
    ofBytes path bytes = .ok settings ↔ ∃ text, Text.ofUtf8? bytes = some text ∧
      (Format.ofExtension (Path.extension? path)).settings? text = some settings := by
  unfold ofBytes
  cases Text.ofUtf8? bytes with
  | none => simp
  | some text =>
      cases hsettings : (Format.ofExtension (Path.extension? path)).settings? text <;>
        simp [hsettings]

theorem settingsFile?_of_ofBytes {bytes : Bytes} {failure : Failure}
    (hfailed : ofBytes path bytes = .error failure) : failure.settingsFile? = some path := by
  revert hfailed
  fun_cases ofBytes path bytes with
  | case1 => rintro ⟨⟩; rfl
  | case2 => rintro ⟨⟩
  | case3 => rintro ⟨⟩; rfl

theorem ofFile_eq_ok_iff {settings : Settings} :
    ofFile system path = .ok settings ↔ LaysDown system path settings := by
  unfold LaysDown
  cases hread : (system.read path).run with
  | error cause =>
      rw [ofFile_of_read_error (m := Id) hread]
      refine iff_of_false nofun ?_
      rintro ⟨bytes, _, hbytes, _⟩
      cases hread.symm.trans hbytes
  | ok bytes =>
      have hfile : ofFile system path = ofBytes path bytes := ofFile_of_read hread
      rw [hfile, ofBytes_eq_ok_iff]
      constructor
      · rintro ⟨text, htext, hsettings⟩
        exact ⟨bytes, text, hread, htext, hsettings⟩
      · rintro ⟨found, text, hfound, htext, hsettings⟩
        obtain rfl : bytes = found := Except.ok.inj (hread.symm.trans hfound)
        exact ⟨text, htext, hsettings⟩

/-- When no settings can be had from a file, the failure is about this file. -/
theorem settingsFile?_of_ofFile {failure : Failure}
    (hfailed : ofFile system path = .error failure) : failure.settingsFile? = some path := by
  cases hread : (system.read path).run with
  | error cause =>
      rw [ofFile_of_read_error (m := Id) hread] at hfailed
      obtain rfl := Except.error.inj hfailed
      rfl
  | ok bytes =>
      rw [ofFile_of_read (m := Id) hread] at hfailed
      exact settingsFile?_of_ofBytes hfailed

/-- What was loaded comes from the file at a path and from no other: the settings that it lays
down, with its path, or a failure that names it. -/
structure ComesFrom (system : FileSystem Id) (path : Text)
    (loaded : Except Failure (Settings × Option Text)) : Prop where
  eq_ofFile : loaded = (ofFile system path).map fun settings => (settings, some path)
  ok_iff : ∀ settings, loaded = .ok (settings, some path) ↔ LaysDown system path settings
  failed : (∀ settings, ¬ LaysDown system path settings) →
    ∃ failure, loaded = .error failure ∧ failure.settingsFile? = some path ∧
      path <:+: failure.message

theorem comesFrom_of_locate (hlocate : locate system environment directory rootOf = some path) :
    ComesFrom system path (load system environment directory rootOf) := by
  rw [load_of_locate_eq_some hlocate]
  refine ⟨rfl, ?_, ?_⟩
  · intro settings
    rw [← ofFile_eq_ok_iff]
    cases ofFile system path with
    | error failure => exact iff_of_false nofun nofun
    | ok found =>
        constructor
        · intro hok
          rw [(Prod.mk.inj (Except.ok.inj hok)).1]
        · intro hok
          rw [Except.ok.inj hok]
          rfl
  · intro hnone
    cases hfile : ofFile system path with
    | ok settings => exact absurd (ofFile_eq_ok_iff.mp hfile) (hnone settings)
    | error failure =>
        have hnamed := settingsFile?_of_ofFile hfile
        exact ⟨failure, rfl, hnamed, Failure.infix_message hnamed⟩

/-! ## Other files -/

/-- Where the same file counts and holds the same, the same is loaded. -/
theorem load_congr {other : FileSystem Id}
    (hchosen : Chosen system environment (rootOf system directory) path)
    (hother : Chosen other environment (rootOf other directory) path)
    (hread : other.read path = system.read path) :
    load other environment directory rootOf = load system environment directory rootOf := by
  rw [load_of_locate_eq_some hother.locate_eq, load_of_locate_eq_some hchosen.locate_eq,
    ofFile_congr hread]

theorem isName_of_mem_usualNames {name : Text} (hname : name ∈ usualNames) : IsName name := by
  have hnames : ∀ name ∈ usualNames, '/' ∉ name ∧ Path.isIdle name = false ∧ name ≠ Path.up ∧
      name.utf8.length ≤ FileTree.maxName := by
    decide +kernel
  obtain ⟨hslash, hidle, hup, hlength⟩ := hnames name hname
  exact ⟨hslash, hidle, hup, hlength⟩

/-- What is added, changed or taken away at other names in the place of a file leaves that file the
first one: no directory stood at these names, and none of them before the name of the file becomes
a file. -/
structure LeavesFirst (tree other : FileTree) (place earlier : List Text) (name : Text)
    (changed : List Text) : Prop where
  agrees : FileTree.AgreesApart tree other place changed
  name_kept : name ∉ changed
  no_directory : ∀ entry ∈ changed, tree.find? (place ++ [entry]) ≠ some .directory
  no_earlier_file : ∀ entry ∈ changed, entry ∈ earlier →
    ∀ content, other.find? (place ++ [entry]) ≠ some (.file content)

namespace FirstFile

variable {tree other : FileTree} {current place earlier later changed : List Text} {name : Text}

theorem isName (hfirst : FirstFile system root earlier name later) : IsName name := by
  refine isName_of_mem_usualNames ?_
  rw [hfirst.names_eq]
  exact List.mem_append_right earlier List.mem_cons_self

/-- The first file stands in the directory to which the path of the root leads. -/
theorem exists_place (hfirst : FirstFile (tree.system current) root earlier name later) :
    ∃ place content, tree.walk current root = .ok place ∧
      tree.find? (place ++ [name]) = some (.file content) := by
  obtain ⟨spot, content, hspot, hentry⟩ := FileTree.kind_eq_file_iff.mp hfirst.found
  obtain ⟨place, hroot, rfl⟩ := FileTree.exists_place_of_locate_join hfirst.isName hspot
  exact ⟨place, content, hroot, hentry⟩

/-- The first file stays the first one, and stays as it is, when the changes leave it so. -/
theorem of_leavesFirst (hfirst : FirstFile (tree.system current) root earlier name later)
    (hroot : tree.walk current root = .ok place)
    (hleaves : LeavesFirst tree other place earlier name changed) :
    FirstFile (other.system current) root earlier name later ∧
      other.read current (Path.join root name) = tree.read current (Path.join root name) := by
  have hother : other.walk current root = .ok place :=
    FileTree.follow_of_agreesApart hroot hleaves.no_directory hleaves.agrees
  have hplace := hleaves.agrees place (FileTree.apart_self place changed)
  have hanswers {entry : Text} (hentry : IsName entry) (hkept : entry ∉ changed) :=
    FileTree.answers_join_congr hentry hroot hother hplace
      (hleaves.agrees _ (FileTree.apart_entry hkept))
  obtain ⟨hkind, hread⟩ := hanswers hfirst.isName hleaves.name_kept
  refine ⟨⟨hfirst.names_eq, hkind.trans hfirst.found, ?_⟩, hread⟩
  intro entry hentry
  have husual : IsName entry := by
    refine isName_of_mem_usualNames ?_
    rw [hfirst.names_eq]
    exact List.mem_append_left _ hentry
  by_cases hchanged : entry ∈ changed
  · intro hfile
    obtain ⟨spot, content, hspot, hcontent⟩ := FileTree.kind_eq_file_iff.mp hfile
    obtain rfl := FileTree.eq_of_locate_join husual hother hspot
    exact hleaves.no_earlier_file entry hchanged hentry content hcontent
  · have hsame := (hanswers husual hchanged).1
    exact fun hfile => hfirst.missed entry hentry (hsame.symm.trans hfile)

end FirstFile

/-- One file counts. It is the one that the environment names, or else the first file with one of
the usual names in the root. The settings are those it lays down, and if it lays down none there is
a failure that names it. There are no settings, and no file they come from, exactly if the
environment names no file and none stands in the root.

Nothing but the file that counts has any influence. In a tree of files, whatever is added, changed
or taken away at other names in the root where no directory stood leaves the settings as they are,
as long as the root stays the same and no name before that of the file becomes a file.

This holds whatever finds the root, and so for the root of the work tree. -/
theorem load_first (rootOf : FileSystem Id → Text → Id Text) (environment : Environment)
    (directory : Text) :
    (∀ (system : FileSystem Id) (path : Text),
        Chosen system environment (rootOf system directory) path →
          ComesFrom system path (load system environment directory rootOf)) ∧
      (∀ system : FileSystem Id, load system environment directory rootOf = .ok (empty, none) ↔
        NamesNone environment ∧ ∀ name ∈ usualNames,
          system.kind (Path.join (rootOf system directory) name) ≠ some .file) ∧
      (∀ (system other : FileSystem Id) (path : Text),
        Chosen system environment (rootOf system directory) path →
          Chosen other environment (rootOf other directory) path →
            other.read path = system.read path →
              load other environment directory rootOf =
                load system environment directory rootOf) ∧
      (NamesNone environment → ∀ (tree : FileTree) (current : List Text),
        let root := rootOf (tree.system current) directory
        ∀ earlier name later, FirstFile (tree.system current) root earlier name later →
          ∃ place content, tree.walk current root = .ok place ∧
            tree.find? (place ++ [name]) = some (.file content) ∧
            ∀ (other : FileTree) (changed : List Text),
              rootOf (other.system current) directory = root →
              LeavesFirst tree other place earlier name changed →
              load (other.system current) environment directory rootOf =
                load (tree.system current) environment directory rootOf) := by
  refine ⟨?_, ?_, ?_, ?_⟩
  · intro system path hchosen
    exact comesFrom_of_locate hchosen.locate_eq
  · intro system
    rw [load_eq_empty_iff, locate_eq_none_iff]
  · intro system other path hchosen hother hread
    exact load_congr hchosen hother hread
  · intro hunnamed tree current root earlier name later hfirst
    obtain ⟨place, content, hroot, hentry⟩ := hfirst.exists_place
    refine ⟨place, content, hroot, hentry, ?_⟩
    intro other changed hsame hleaves
    obtain ⟨hfound, hread⟩ := hfirst.of_leavesFirst hroot hleaves
    have hother : Chosen (other.system current) environment
        (rootOf (other.system current) directory) (Path.join root name) := by
      rw [hsame]
      exact .usual hunnamed hfound
    exact load_congr (.usual hunnamed hfirst) hother hread

/-- A directory with a settings file that holds this text. -/
def holding (content : Text) : FileTree :=
  ⟨[([['d'], "plenary-fmt.config.json5".toList], .file (Text.utf8 content))]⟩

/-- A directory with a settings file that is not in its format. -/
def corrupted : FileTree := holding ['{']

/-- The same, with a directory at a name before that of the file, and with settings at a name
behind it. -/
def crowded : FileTree :=
  (corrupted.put [['d'], "plenary-fmt.toml".toList] .directory).put
    [['d'], "plenary-fmt.config.yml".toList] (.file (Text.utf8 "columns: 4".toList))

/-- A directory with a settings file that can be used. -/
def settled : FileTree := holding "{columns: 4}".toList

theorem rootOf_holding (content : Text) :
    Repository.rootOf (m := Id) ((holding content).system [['d']]) "/d".toList = "/d".toList :=
  rfl

theorem rootOf_crowded :
    (Repository.rootOf (m := Id) (crowded.system [['d']]) "/d".toList).run = "/d".toList := by
  decide +kernel

theorem firstFile_holding (content : Text) :
    FirstFile ((holding content).system [['d']]) "/d".toList (usualNames.take 2)
      "plenary-fmt.config.json5".toList (usualNames.drop 3) where
  names_eq := by decide
  found := rfl
  missed := by
    have hnames : usualNames.take 2 =
        ["plenary-fmt.toml".toList, "plenary-fmt.config.json".toList] := rfl
    rw [hnames, List.forall_mem_cons, List.forall_mem_singleton]
    exact ⟨nofun, nofun⟩

theorem not_laysDown_corrupted (settings : Settings) :
    ¬ LaysDown (corrupted.system [['d']]) "/d/plenary-fmt.config.json5".toList settings := by
  have hfailed : (ofFile (m := Id) (corrupted.system [['d']])
      "/d/plenary-fmt.config.json5".toList).run.toOption = none := by decide +kernel
  intro hlays
  rw [ofFile_eq_ok_iff.mpr hlays] at hfailed
  cases hfailed

theorem laysDown_settled :
    LaysDown (settled.system [['d']]) "/d/plenary-fmt.config.json5".toList
      { empty with columns := some 4 } := by
  have htext : Text.ofUtf8? (Text.utf8 "{columns: 4}".toList) = some "{columns: 4}".toList := by
    decide +kernel
  have hsettings : (Format.ofExtension (Path.extension? "/d/plenary-fmt.config.json5".toList)).settings?
      "{columns: 4}".toList = some { empty with columns := some 4 } := by
    decide +kernel
  exact ⟨_, _, rfl, htext, hsettings⟩

theorem leavesFirst_crowded :
    LeavesFirst corrupted crowded [['d']] (usualNames.take 2) "plenary-fmt.config.json5".toList
      ["plenary-fmt.toml".toList, "plenary-fmt.config.yml".toList] where
  agrees :=
    (FileTree.agreesApart_put (by decide) _ _).trans (FileTree.agreesApart_put (by decide) _ _)
  name_kept := by decide
  no_directory := by decide
  no_earlier_file := by
    have hdirectory : ∀ entry ∈ ["plenary-fmt.toml".toList, "plenary-fmt.config.yml".toList],
        entry ∈ usualNames.take 2 → crowded.find? ([['d']] ++ [entry]) = some .directory := by
      decide +kernel
    intro entry hentry hearlier content hcontent
    cases (hdirectory entry hentry hearlier).symm.trans hcontent

/-- The environment in which the variable for the settings file has a value. -/
def environmentNaming (value : Text) : Environment :=
  fun name => if name = fileVariable.toList then some value else none

theorem namesNone_blank : NamesNone (environmentNaming [' ', '\t']) := by
  intro value hvalue
  obtain rfl := Option.some.inj hvalue
  decide

/-- Without a name in the environment it is the file in the directory that counts. -/
theorem chosen_holding (content : Text) :
    Chosen ((holding content).system [['d']]) (environmentNaming [' ', '\t'])
      (Repository.rootOf (m := Id) ((holding content).system [['d']]) "/d".toList)
      "/d/plenary-fmt.config.json5".toList := by
  rw [rootOf_holding]
  exact .usual namesNone_blank (firstFile_holding content)

/-- The corrupted file counts although settings stand behind it, and a directory before it is passed
over. A file that can be used is found and put in force. A file that the environment names counts
although it is missing. -/
theorem load_first_corrupted :
    NamesNone (environmentNaming [' ', '\t']) ∧
      FirstFile (corrupted.system [['d']]) "/d".toList (usualNames.take 2)
        "plenary-fmt.config.json5".toList (usualNames.drop 3) ∧
      (∃ failure, load (m := Id) (corrupted.system [['d']]) (environmentNaming [' ', '\t'])
          "/d".toList = .error failure ∧
        failure.settingsFile? = some "/d/plenary-fmt.config.json5".toList) ∧
      load (m := Id) (crowded.system [['d']]) (environmentNaming [' ', '\t']) "/d".toList =
        load (m := Id) (corrupted.system [['d']]) (environmentNaming [' ', '\t']) "/d".toList ∧
      load (m := Id) (settled.system [['d']]) (environmentNaming [' ', '\t']) "/d".toList =
        .ok ({ empty with columns := some 4 }, some "/d/plenary-fmt.config.json5".toList) ∧
      Names (environmentNaming " x\n".toList) ['x'] ∧
      ∃ failure, load (m := Id) (corrupted.system [['d']]) (environmentNaming " x\n".toList)
          "/d".toList = .error failure ∧
        failure.settingsFile? = some ['x'] := by
  have hsame : Repository.rootOf (m := Id) (crowded.system [['d']]) "/d".toList = "/d".toList :=
    rootOf_crowded
  obtain ⟨hcomes, -, -, htree⟩ :=
    load_first Repository.rootOf (environmentNaming [' ', '\t']) "/d".toList
  refine ⟨namesNone_blank, firstFile_holding _, ?_, ?_, ?_, ?_⟩
  · obtain ⟨failure, hfailure, hfile, -⟩ :=
      (hcomes _ _ (chosen_holding _)).failed not_laysDown_corrupted
    exact ⟨failure, hfailure, hfile⟩
  · have hfirst := htree namesNone_blank corrupted [['d']]
    rw [corrupted, rootOf_holding] at hfirst
    obtain ⟨place, content, hplace, -, hothers⟩ := hfirst _ _ _ (firstFile_holding _)
    have hwalk : corrupted.walk [['d']] "/d".toList = .ok [['d']] := rfl
    obtain rfl : [['d']] = place := Except.ok.inj (hwalk.symm.trans hplace)
    exact hothers crowded _ hsame leavesFirst_crowded
  · exact ((hcomes _ _ (chosen_holding _)).ok_iff _).mpr laysDown_settled
  · have hnames : Names (environmentNaming " x\n".toList) ['x'] :=
      ⟨_, rfl, by decide, List.cons_ne_nil _ _⟩
    have hmissing : corrupted.read [['d']] ['x'] = .error .noSuchFile := rfl
    have hnothing (settings : Settings) :
        ¬ LaysDown (corrupted.system [['d']]) ['x'] settings := by
      rintro ⟨bytes, _, hread, _⟩
      cases hmissing.symm.trans hread
    obtain ⟨hcomes, -⟩ :=
      load_first Repository.rootOf (environmentNaming " x\n".toList) "/d".toList
    obtain ⟨failure, hfailure, hfile, -⟩ :=
      (hcomes (corrupted.system [['d']]) ['x'] (.named hnames)).failed hnothing
    exact ⟨hnames, failure, hfailure, hfile⟩

end Settings

end Transcript
