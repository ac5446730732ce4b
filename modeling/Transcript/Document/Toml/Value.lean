import Transcript.Document.Basic
import Transcript.Document.Toml.Scalar

/-! # Keys and values of TOML

A key is a path of names. Tables that are written by paths remember how they came to
be: one that was only walked through by a path of names may be given more names by other
such paths, one that was written as a table may not.
-/

namespace Transcript.Toml

/-- How a table came to be. -/
inductive Origin where
  /-- Written with its own header, or as an inline table. -/
  | written
  /-- Walked through by the header of another table. -/
  | passed
  /-- Walked through by the key of a value. -/
  | dotted
  deriving DecidableEq

/-- What a name stands for: a value, a table, or a list of tables, latest first. -/
inductive Item where
  | value (node : Node Scalar)
  | table (origin : Origin) (entries : List (Text × Item))
  | tables (elements : List (List (Text × Item)))

/-- The entries of a table. -/
abbrev Entries := List (Text × Item)

namespace Item

mutual

/-- The document an item stands for. -/
def toNode : Item → Node Scalar
  | .value node => node
  | .table _ entries => .mapping (entriesToNodes entries)
  | .tables elements => .sequence (elementsToNodes elements).reverse

/-- The documents of entries. -/
def entriesToNodes : List (Text × Item) → List (Node Scalar × Node Scalar)
  | [] => []
  | (name, item) :: rest => (.scalar (.text name), toNode item) :: entriesToNodes rest

/-- The documents of a list of tables. -/
def elementsToNodes : List (List (Text × Item)) → List (Node Scalar)
  | [] => []
  | entries :: rest => .mapping (entriesToNodes entries) :: elementsToNodes rest

end

end Item

namespace Entries

/-- What a name stands for. -/
def find? (entries : Entries) (name : Text) : Option Item := entries.lookup name

/-- Lets a name stand for an item, in the place it has. -/
def put (entries : Entries) (name : Text) (item : Item) : Entries :=
  if (entries.find? name).isSome then
    entries.map fun entry => if entry.1 = name then (name, item) else entry
  else entries ++ [(name, item)]

/-- Changes the table at the end of a path. Names without a table get one of the given
origin, and a list of tables stands for its latest one. A path of a value's key may not
lead through a table that was written as such. -/
def changeAt (origin : Origin) (change : Origin → Entries → Option Entries) :
    (path : List Text) → Origin → Entries → Option Entries
  | [], here, entries => change here entries
  | name :: path, _, entries =>
    match entries.find? name with
    | none =>
      (changeAt origin change path origin []).map fun inner =>
        entries.put name (.table origin inner)
    | some (.table there inner) =>
      if origin = .dotted && there = .written then none
      else (changeAt origin change path there inner).map fun inner =>
        entries.put name (.table there inner)
    | some (.tables (latest :: earlier)) =>
      (changeAt origin change path .written latest).map fun latest =>
        entries.put name (.tables (latest :: earlier))
    | some (.tables []) => none
    | some (.value _) => none

/-- Gives a name a value, in the table reached by a path of names. The table has to be
one that such paths made, unless the path is empty. -/
def addValue? (entries : Entries) (origin : Origin) (path : List Text) (name : Text)
    (node : Node Scalar) : Option Entries :=
  changeAt .dotted (fun here entries =>
    if (!path.isEmpty && here != .dotted) || (entries.find? name).isSome then none
    else some (entries.put name (.value node))) path origin entries

end Entries

/-! ## Keys -/

/-- The greatest depth of nesting, of values and of names in a key. -/
def maxDepth : Nat := 79

/-- Whether a character may stand in a name without quotes. -/
def isBare (c : Char) : Bool :=
  ('a' ≤ c && c ≤ 'z') || ('A' ≤ c && c ≤ 'Z') || Text.isDigit c || c = '_' || c = '-'

/-- Takes one name. -/
def name : Scan Text := do
  match ← Scan.peek with
  | some '"' => basicString
  | some '\'' => rawString
  | _ => Scan.takeSome isBare

/-- Takes names with points between them, in so many steps at most. -/
def names : (steps : Nat) → Scan (List Text)
  | 0 => failure
  | steps + 1 => do
    blanks
    let first ← name
    blanks
    if ← Scan.takes ['.'] then
      pure (first :: (← names steps))
    else pure [first]

/-- Takes a key: the path and the last name. -/
def key : Scan (List Text × Text) := do
  let names ← names maxDepth
  match names.getLast? with
  | some last => pure (names.dropLast, last)
  | none => failure

/-! ## Values -/

/-- Drops blanks, ends of lines and comments, in so many steps at most. -/
def filler : (steps : Nat) → Scan Unit
  | 0 => failure
  | steps + 1 => do
    blanks
    match ← Scan.peek with
    | some '#' => do
      comment
      newline
      filler steps
    | some '\n' | some '\r' => do
      newline
      filler steps
    | _ => pure ()

mutual

/-- Takes a value nested at most `depth` levels deep, in so many steps at most. -/
def valueWithin : (steps depth : Nat) → Scan (Node Scalar)
  | 0, _ => failure
  | steps + 1, depth => do
    match ← Scan.peek with
    | some '[' => do
      let _ ← Scan.next
      Scan.check (depth != 0)
      Node.sequence <$> itemsWithin steps (depth - 1)
    | some '{' => do
      let _ ← Scan.next
      Scan.check (depth != 0)
      blanks
      if ← Scan.takes ['}'] then pure (.mapping [])
      else
        let entries ← entriesWithin steps (depth - 1) []
        pure (.mapping (Item.entriesToNodes entries))
    | _ => Node.scalar <$> scalar

/-- Takes the items of an array and its closing bracket. -/
def itemsWithin : (steps depth : Nat) → Scan (List (Node Scalar))
  | 0, _ => failure
  | steps + 1, depth => do
    filler ((← get).length + 1)
    if ← Scan.takes [']'] then pure []
    else
      let item ← valueWithin steps depth
      filler ((← get).length + 1)
      if ← Scan.takes [','] then
        pure (item :: (← itemsWithin steps depth))
      else
        Scan.expect [']']
        pure [item]

/-- Takes the entries of an inline table, after some entries, and its closing brace. -/
def entriesWithin : (steps depth : Nat) → Entries → Scan Entries
  | 0, _, _ => failure
  | steps + 1, depth, entries => do
    let (path, last) ← key
    Scan.expect ['=']
    blanks
    let node ← valueWithin steps depth
    blanks
    let entries ← (entries.addValue? .written path last node : Option Entries)
    if ← Scan.takes [','] then entriesWithin steps depth entries
    else
      Scan.expect ['}']
      pure entries

end

/-- Takes a value. Two steps for each character are enough, because a step that takes
none is followed by one that does. -/
def value : Scan (Node Scalar) := do
  valueWithin (2 * (← get).length + 2) maxDepth

end Transcript.Toml
