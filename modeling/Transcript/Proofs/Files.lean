import Transcript.Files
import Transcript.Proofs.Text.Pieces

/-!
# Walking through a tree of files

A path is walked piece by piece, so a name joined to the path of a directory leads to the entry of
that name. What stands at some names of a directory, or below them, has no influence on the other
names, nor on the way to the directory, as long as the way does not lead through it.
-/

namespace Transcript

/-- A name under which something can stand in a directory. -/
structure IsName (name : Text) : Prop where
  slash_not_mem : '/' ∉ name
  not_idle : Path.isIdle name = false
  ne_up : name ≠ Path.up
  length_le : name.utf8.length ≤ FileTree.maxName

namespace IsName

variable {name : Text}

theorem ne_nil (hname : IsName name) : name ≠ [] := by
  rintro rfl
  exact Bool.false_ne_true hname.not_idle.symm

theorem not_isAbsolute (hname : IsName name) : Path.isAbsolute name = false := by
  refine decide_eq_false ?_
  intro hhead
  exact hname.slash_not_mem (List.mem_of_mem_head? hhead)

theorem pieces_eq (hname : IsName name) : Path.pieces name = [name] :=
  Text.piecesAt_of_not_mem hname.slash_not_mem

theorem join_eq (hname : IsName name) (root : Text) :
    Path.join root name =
      if root.isEmpty then name
      else if root.getLast? = some '/' then root ++ name else root ++ '/' :: name := by
  rw [Path.join, hname.not_isAbsolute, Bool.false_or]

theorem join_ne_nil (hname : IsName name) (root : Text) : Path.join root name ≠ [] := by
  rw [hname.join_eq]
  split
  · exact hname.ne_nil
  · split
    · exact List.append_ne_nil_of_right_ne_nil root hname.ne_nil
    · exact List.append_ne_nil_of_right_ne_nil root (List.cons_ne_nil _ _)

theorem isAbsolute_join (hname : IsName name) (root : Text) :
    Path.isAbsolute (Path.join root name) = Path.isAbsolute root := by
  rw [hname.join_eq]
  cases root with
  | nil => exact hname.not_isAbsolute
  | cons c rest =>
      change Path.isAbsolute (if (c :: rest).getLast? = some '/' then c :: (rest ++ name)
        else c :: (rest ++ '/' :: name)) = _
      split <;> rfl

/-- A name joined to a path is one more piece, or takes the place of an empty one at the end. -/
theorem pieces_join (hname : IsName name) (root : Text) :
    Path.pieces (Path.join root name) = Path.pieces root ++ [name] ∨
      ∃ front, Path.pieces root = front ++ [[]] ∧
        Path.pieces (Path.join root name) = front ++ [name] := by
  have hslash (front rest : Text) :
      Path.pieces (front ++ '/' :: rest) = Path.pieces front ++ Path.pieces rest :=
    Text.piecesAt_append front rest
  rw [hname.join_eq]
  split
  next hempty =>
    obtain rfl := List.isEmpty_iff.mp hempty
    exact .inr ⟨[], rfl, hname.pieces_eq⟩
  next =>
    split
    next hlast =>
      obtain ⟨front, rfl⟩ := List.getLast?_eq_some_iff.mp hlast
      refine .inr ⟨Path.pieces front, hslash front [], ?_⟩
      rw [List.append_assoc, List.singleton_append, hslash, hname.pieces_eq]
    next => rw [hslash, hname.pieces_eq]; exact .inl rfl

end IsName

namespace FileTree

variable (tree : FileTree)

/-! ## Walking -/

/-- The place a path leads to from a current directory, however long the path is. The empty path
leads to the current directory. -/
def walk (current : List Text) (path : Text) : Except IoError (List Text) :=
  tree.follow (if Path.isAbsolute path then [] else current) (Path.pieces path)

theorem locate_of_ne_nil {path : Text} (hne : path ≠ []) (current : List Text) :
    tree.locate current path =
      if maxPath < path.utf8.length then .error .fileNameTooLong else tree.walk current path := by
  rw [locate, if_neg (by rwa [List.isEmpty_iff])]
  rfl

/-- The place one piece of a path leads to. -/
def step (place : List Text) (piece : Text) : Except IoError (List Text) :=
  if tree.find? place != some .directory then .error .notADirectory
  else if Path.isIdle piece then .ok place
  else if piece = Path.up then .ok place.dropLast
  else if maxName < piece.utf8.length then .error .fileNameTooLong
  else if (tree.find? (place ++ [piece])).isNone then .error .noSuchFile
  else .ok (place ++ [piece])

theorem follow_cons (place : List Text) (piece : Text) (rest : List Text) :
    tree.follow place (piece :: rest) = tree.step place piece >>= (tree.follow · rest) := by
  rw [follow, step]
  repeat' split
  all_goals rfl

/-- What a piece of a path does that leads anywhere. -/
inductive StepsTo (tree : FileTree) (place : List Text) (piece : Text) : List Text → Prop where
  | stay (hdirectory : tree.find? place = some .directory) (hidle : Path.isIdle piece = true) :
    StepsTo tree place piece place
  | up (hdirectory : tree.find? place = some .directory) (hup : piece = Path.up) :
    StepsTo tree place piece place.dropLast
  | down (hdirectory : tree.find? place = some .directory) (hidle : Path.isIdle piece = false)
    (hup : piece ≠ Path.up) (hlength : piece.utf8.length ≤ maxName)
    (hentry : (tree.find? (place ++ [piece])).isSome = true) :
    StepsTo tree place piece (place ++ [piece])

theorem step_eq_ok_iff {tree : FileTree} {place next : List Text} {piece : Text} :
    tree.step place piece = .ok next ↔ StepsTo tree place piece next := by
  have hdirectory : ¬ (tree.find? place != some .directory) = true ↔
      tree.find? place = some .directory := by
    rw [bne_iff_ne, ne_eq, Decidable.not_not]
  constructor
  · fun_cases step tree place piece with
    | case1 => rintro ⟨⟩
    | case2 hplace hidle =>
        rintro ⟨⟩
        exact .stay (hdirectory.mp hplace) hidle
    | case3 hplace _ hup =>
        rintro ⟨⟩
        exact .up (hdirectory.mp hplace) hup
    | case4 => rintro ⟨⟩
    | case5 => rintro ⟨⟩
    | case6 hplace hidle hup hlength hentry =>
        rintro ⟨⟩
        exact .down (hdirectory.mp hplace) (Bool.eq_false_iff.mpr hidle) hup (Nat.not_lt.mp hlength)
          (Option.isSome_iff_ne_none.mpr fun hnone => hentry (Option.isNone_iff_eq_none.mpr hnone))
  · rintro (⟨hplace, hidle⟩ | ⟨hplace, rfl⟩ | ⟨hplace, hidle, hup, hlength, hentry⟩)
    · rw [step, if_neg (hdirectory.mpr hplace), if_pos hidle]
    · rw [step, if_neg (hdirectory.mpr hplace), if_neg (by decide), if_pos rfl]
    · rw [step, if_neg (hdirectory.mpr hplace), if_neg (Bool.eq_false_iff.mp hidle), if_neg hup,
        if_neg (Nat.not_lt.mpr hlength), if_neg]
      rw [Option.isNone_iff_eq_none, ← Option.not_isSome_iff_eq_none, hentry]
      exact not_not_intro rfl

theorem follow_cons_eq_ok {tree : FileTree} {place last : List Text} {piece : Text}
    {rest : List Text} (hfollow : tree.follow place (piece :: rest) = .ok last) :
    ∃ next, StepsTo tree place piece next ∧ tree.follow next rest = .ok last := by
  rw [follow_cons] at hfollow
  cases hstep : tree.step place piece with
  | error error =>
      rw [hstep] at hfollow
      cases hfollow
  | ok next =>
      rw [hstep] at hfollow
      exact ⟨next, step_eq_ok_iff.mp hstep, hfollow⟩

theorem follow_append (place : List Text) (front behind : List Text) :
    tree.follow place (front ++ behind) = tree.follow place front >>= (tree.follow · behind) := by
  induction front generalizing place with
  | nil => rfl
  | cons piece rest ih => simp only [List.cons_append, follow_cons, ih, bind_assoc]

/-- A name leads to the entry of that name, if there is one. -/
theorem follow_name {name : Text} (hname : IsName name) (place : List Text) :
    tree.follow place [name] =
      if tree.find? place != some .directory then .error .notADirectory
      else if (tree.find? (place ++ [name])).isNone then .error .noSuchFile
      else .ok (place ++ [name]) := by
  rw [follow, if_neg (Bool.eq_false_iff.mp hname.not_idle), if_neg hname.ne_up,
    if_neg (Nat.not_lt.mpr hname.length_le)]
  rfl

/-- An empty piece asks for a directory, and so does any piece after it. -/
theorem follow_empty_cons (place : List Text) (piece : Text) :
    tree.follow place [[], piece] = tree.follow place [piece] := by
  have hempty : tree.follow place [[], piece] =
    if tree.find? place != some .directory then .error .notADirectory
    else tree.follow place [piece] := rfl
  rw [hempty, follow]
  split <;> rfl

/-- A name joined to a path is walked after the path. -/
theorem walk_join {name : Text} (hname : IsName name) (current : List Text) (root : Text) :
    tree.walk current (Path.join root name) =
      tree.walk current root >>= (tree.follow · [name]) := by
  unfold walk
  rw [hname.isAbsolute_join, ← follow_append]
  obtain hpieces | ⟨front, hroot, hpieces⟩ := hname.pieces_join root
  · rw [hpieces]
  · rw [hroot, hpieces, List.append_assoc, follow_append, follow_append]
    simp only [List.cons_append, List.nil_append, follow_empty_cons]

/-! ## The entries of a directory -/

variable {tree} {current place : List Text} {root name : Text}

theorem locate_join (hname : IsName name) (hroot : tree.walk current root = .ok place) :
    tree.locate current (Path.join root name) =
      if maxPath < (Path.join root name).utf8.length then .error .fileNameTooLong
      else tree.follow place [name] := by
  rw [tree.locate_of_ne_nil (hname.join_ne_nil root), tree.walk_join hname, hroot]
  rfl

/-- A name in a directory leads to the entry of that name or nowhere. -/
theorem eq_of_locate_join (hname : IsName name) (hroot : tree.walk current root = .ok place)
    {spot : List Text} (hspot : tree.locate current (Path.join root name) = .ok spot) :
    spot = place ++ [name] := by
  rw [locate_join hname hroot] at hspot
  split at hspot
  next => cases hspot
  next =>
    obtain ⟨next, hstep, hrest⟩ := follow_cons_eq_ok hspot
    obtain rfl : next = spot := Except.ok.inj hrest
    cases hstep with
    | stay _ hidle => exact absurd hidle (Bool.eq_false_iff.mp hname.not_idle)
    | up _ hup => exact absurd hup hname.ne_up
    | down => rfl

/-- What stands at a name in a directory is an entry of the directory. -/
theorem exists_place_of_locate_join (hname : IsName name) {spot : List Text}
    (hspot : tree.locate current (Path.join root name) = .ok spot) :
    ∃ place, tree.walk current root = .ok place ∧ spot = place ++ [name] := by
  cases hroot : tree.walk current root with
  | error error =>
      rw [tree.locate_of_ne_nil (hname.join_ne_nil root), tree.walk_join hname, hroot] at hspot
      split at hspot <;> cases hspot
  | ok place => exact ⟨place, rfl, eq_of_locate_join hname hroot hspot⟩

theorem kind_eq_file_iff {path : Text} :
    tree.kind current path = some .file ↔
      ∃ spot content, tree.locate current path = .ok spot ∧
        tree.find? spot = some (.file content) := by
  unfold kind
  cases hspot : tree.locate current path with
  | error error => simp
  | ok spot =>
      cases hentry : tree.find? spot with
      | none => simp [hentry]
      | some entry => cases entry <;> simp [hentry]

/-- What is told of a name in a directory depends on the directory and on its entry of that
name. -/
theorem answers_join_congr {other : FileTree} (hname : IsName name)
    (hroot : tree.walk current root = .ok place) (hother : other.walk current root = .ok place)
    (hplace : other.find? place = tree.find? place)
    (hentry : other.find? (place ++ [name]) = tree.find? (place ++ [name])) :
    other.kind current (Path.join root name) = tree.kind current (Path.join root name) ∧
      other.read current (Path.join root name) = tree.read current (Path.join root name) := by
  have hlocate : other.locate current (Path.join root name) =
      tree.locate current (Path.join root name) := by
    rw [locate_join hname hroot, locate_join hname hother, follow_name tree hname,
      follow_name other hname, hplace, hentry]
  unfold kind read
  rw [hlocate]
  cases hspot : tree.locate current (Path.join root name) with
  | error error => exact ⟨rfl, rfl⟩
  | ok spot =>
      obtain rfl := eq_of_locate_join hname hroot hspot
      dsimp only
      rw [hentry]
      exact ⟨rfl, rfl⟩

/-! ## Trees that agree apart from some entries -/

/-- A place that is not one of the names in a directory, and not below one of them either. -/
def Apart (place : List Text) (names : List Text) (spot : List Text) : Prop :=
  ∀ name ∈ names, ¬ place ++ [name] <+: spot

/-- The same stands in two trees, except at some names of a directory and below them. -/
def AgreesApart (tree other : FileTree) (place : List Text) (names : List Text) : Prop :=
  ∀ spot, Apart place names spot → other.find? spot = tree.find? spot

variable {names : List Text}

theorem apart_self (place names : List Text) : Apart place names place := by
  intro name _ hunder
  have hlength := hunder.length_le
  rw [List.length_append, List.length_singleton] at hlength
  omega

theorem apart_entry (hname : name ∉ names) : Apart place names (place ++ [name]) := by
  intro other hother hunder
  rw [List.prefix_append_right_inj, List.cons_prefix_cons] at hunder
  exact hname (hunder.1 ▸ hother)

theorem Apart.of_append {spot more : List Text} (hapart : Apart place names (spot ++ more)) :
    Apart place names spot :=
  fun name hname hunder => hapart name hname (hunder.trans (List.prefix_append spot more))

/-- A step is taken in a directory, so whoever comes out apart from some names that are no
directories was apart from them before. -/
theorem StepsTo.apart {spot next : List Text} {piece : Text} (hstep : StepsTo tree spot piece next)
    (hfree : ∀ name ∈ names, tree.find? (place ++ [name]) ≠ some .directory)
    (hapart : Apart place names next) : Apart place names spot := by
  cases hstep with
  | stay => exact hapart
  | up hdirectory =>
      rintro name hname ⟨more, rfl⟩
      by_cases hmore : more = []
      · subst hmore
        rw [List.append_nil] at hdirectory
        exact hfree name hname hdirectory
      · rw [List.dropLast_append_of_ne_nil hmore] at hapart
        exact hapart name hname (List.prefix_append _ _)
  | down => exact hapart.of_append

theorem StepsTo.of_agreesApart {other : FileTree} {spot next : List Text} {piece : Text}
    (hstep : StepsTo tree spot piece next) (hagrees : AgreesApart tree other place names)
    (hspot : Apart place names spot) (hnext : Apart place names next) :
    StepsTo other spot piece next := by
  cases hstep with
  | stay hdirectory hidle => exact .stay ((hagrees _ hspot).trans hdirectory) hidle
  | up hdirectory hup => exact .up ((hagrees _ hspot).trans hdirectory) hup
  | down hdirectory hidle hup hlength hentry =>
      refine .down ((hagrees _ hspot).trans hdirectory) hidle hup hlength ?_
      rwa [hagrees _ hnext]

theorem apart_of_follow {spot : List Text} {pieces : List Text}
    (hfollow : tree.follow spot pieces = .ok place)
    (hfree : ∀ name ∈ names, tree.find? (place ++ [name]) ≠ some .directory) :
    Apart place names spot := by
  induction pieces generalizing spot with
  | nil =>
      obtain rfl := Except.ok.inj hfollow
      exact apart_self spot names
  | cons piece rest ih =>
      obtain ⟨next, hstep, hrest⟩ := follow_cons_eq_ok hfollow
      exact hstep.apart hfree (ih hrest)

/-- A way to a directory that does not lead through the names apart is one in both trees. -/
theorem follow_of_agreesApart {other : FileTree} {spot : List Text} {pieces : List Text}
    (hfollow : tree.follow spot pieces = .ok place)
    (hfree : ∀ name ∈ names, tree.find? (place ++ [name]) ≠ some .directory)
    (hagrees : AgreesApart tree other place names) :
    other.follow spot pieces = .ok place := by
  induction pieces generalizing spot with
  | nil => exact hfollow
  | cons piece rest ih =>
      obtain ⟨next, hstep, hrest⟩ := follow_cons_eq_ok hfollow
      have hspot := apart_of_follow hfollow hfree
      have hnext := apart_of_follow hrest hfree
      rw [follow_cons, step_eq_ok_iff.mpr (hstep.of_agreesApart hagrees hspot hnext)]
      exact ih hrest

/-! ## Putting entries into a directory -/

/-- The tree with an entry put at a place. -/
def put (tree : FileTree) (place : List Text) (entry : FileEntry) : FileTree :=
  ⟨(place, entry) :: tree.entries⟩

/-- Something stands at the root, and wherever an entry is or is to be reached through. -/
theorem isSome_find?_iff {spot : List Text} :
    (tree.find? spot).isSome = true ↔ spot = [] ∨ ∃ entry ∈ tree.entries, spot <+: entry.1 := by
  have hwithin : (spot.isEmpty || tree.entries.any (spot.isPrefixOf ·.1)) = true ↔
      spot = [] ∨ ∃ entry ∈ tree.entries, spot <+: entry.1 := by
    simp only [Bool.or_eq_true, List.isEmpty_iff, List.any_eq_true, List.isPrefixOf_iff_prefix]
  unfold find?
  cases hlookup : tree.entries.lookup spot with
  | some entry =>
      obtain ⟨front, behind, hentries, -⟩ := List.lookup_eq_some_iff.mp hlookup
      refine iff_of_true rfl (.inr ⟨(spot, entry), ?_, List.prefix_rfl⟩)
      rw [hentries]
      exact List.mem_append_right front List.mem_cons_self
  | none =>
      dsimp only
      rw [← hwithin]
      split
      next h => exact iff_of_true rfl h
      next h => exact iff_of_false Bool.false_ne_true h

theorem find?_eq_directory_of_lookup {spot : List Text} (hlookup : tree.entries.lookup spot = none)
    (hsome : (tree.find? spot).isSome = true) : tree.find? spot = some .directory := by
  unfold find? at hsome ⊢
  rw [hlookup] at hsome ⊢
  dsimp only at hsome ⊢
  split at hsome
  next h => exact if_pos h
  next => cases hsome

/-- What is put at a name in a directory is met at this name only. -/
theorem agreesApart_put (hplace : tree.find? place = some .directory) (name : Text)
    (entry : FileEntry) : AgreesApart tree (tree.put (place ++ [name]) entry) place [name] := by
  intro spot hapart
  have hne : spot ≠ place ++ [name] := by
    rintro rfl
    exact hapart name List.mem_cons_self List.prefix_rfl
  have hlookup : (tree.put (place ++ [name]) entry).entries.lookup spot =
      tree.entries.lookup spot := by
    rw [put, List.lookup_cons, beq_eq_false_iff_ne.mpr hne]
  have habove (hunder : spot <+: place) :
      spot = [] ∨ ∃ found ∈ tree.entries, spot <+: found.1 := by
    have hstands : (tree.find? place).isSome = true := by rw [hplace]; rfl
    obtain rfl | ⟨found, hfound, hbelow⟩ := isSome_find?_iff.mp hstands
    · exact .inl (List.prefix_nil.mp hunder)
    · exact .inr ⟨found, hfound, hunder.trans hbelow⟩
  have hsome : ((tree.put (place ++ [name]) entry).find? spot).isSome = true ↔
      (tree.find? spot).isSome = true := by
    rw [isSome_find?_iff, isSome_find?_iff]
    constructor
    · rintro (hroot | ⟨found, hfound, hunder⟩)
      · exact .inl hroot
      · obtain rfl | hfound := List.mem_cons.mp hfound
        · exact habove ((List.prefix_concat_iff.mp hunder).resolve_left hne)
        · exact .inr ⟨found, hfound, hunder⟩
    · exact Or.imp_right fun ⟨found, hfound, hunder⟩ =>
        ⟨found, List.mem_cons_of_mem _ hfound, hunder⟩
  cases hentry : tree.entries.lookup spot with
  | some found =>
      unfold find?
      rw [hlookup, hentry]
  | none =>
      by_cases hstands : (tree.find? spot).isSome = true
      · rw [find?_eq_directory_of_lookup hentry hstands,
          find?_eq_directory_of_lookup (hlookup.trans hentry) (hsome.mpr hstands)]
      · rw [Option.not_isSome_iff_eq_none.mp hstands,
          Option.not_isSome_iff_eq_none.mp (mt hsome.mp hstands)]

theorem AgreesApart.trans {middle : FileTree} {first second : List Text}
    (hfirst : AgreesApart tree middle place first)
    (hsecond : AgreesApart middle other place second) :
    AgreesApart tree other place (first ++ second) := by
  intro spot hapart
  rw [hsecond spot fun name hname => hapart name (List.mem_append_right first hname),
    hfirst spot fun name hname => hapart name (List.mem_append_left second hname)]

end FileTree

end Transcript
