import Transcript.Document.Toml.Value

/-! # TOML

A document is a sequence of lines. A line gives a name a value in the current table, or
its header makes another table the current one.
-/

namespace Transcript.Toml

/-- A line that says something. -/
inductive Statement where
  /-- Makes a table the current one. -/
  | table (path : List Text) (name : Text)
  /-- Adds a table to a list of tables and makes it the current one. -/
  | element (path : List Text) (name : Text)
  /-- Gives a name a value in the current table. -/
  | value (path : List Text) (name : Text) (node : Node Scalar)

/-- A document as far as it is read. -/
structure Draft where
  entries : Entries
  /-- The path of the current table. -/
  current : List Text

namespace Draft

/-- Takes one statement into the document. -/
def add? (draft : Draft) : Statement → Option Draft
  | .table path name =>
    (Entries.changeAt .passed (fun _ entries =>
      match entries.find? name with
      | none => some (entries.put name (.table .written []))
      | some (.table .passed inner) => some (entries.put name (.table .written inner))
      | some _ => none) path .written draft.entries).map (⟨·, path ++ [name]⟩)
  | .element path name =>
    (Entries.changeAt .passed (fun _ entries =>
      match entries.find? name with
      | none => some (entries.put name (.tables [[]]))
      | some (.tables elements) => some (entries.put name (.tables ([] :: elements)))
      | some _ => none) path .written draft.entries).map (⟨·, path ++ [name]⟩)
  | .value path name node =>
    (Entries.changeAt .passed (fun origin entries => entries.addValue? origin path name node)
      draft.current .written draft.entries).map (⟨·, draft.current⟩)

end Draft

/-- Takes a statement, without the end of its line. -/
def statement : Scan Statement := do
  if ← Scan.takes ['[', '['] then
    let (path, name) ← key
    Scan.expect [']', ']']
    pure (.element path name)
  else if ← Scan.takes ['['] then
    let (path, name) ← key
    Scan.expect [']']
    pure (.table path name)
  else
    let (path, name) ← key
    Scan.expect ['=']
    blanks
    pure (.value path name (← value))

/-- Takes the statements up to the end of the text, in so many steps at most. -/
def statements : (steps : Nat) → Scan (List Statement)
  | 0 => failure
  | steps + 1 => do
    blanks
    match ← Scan.peek with
    | none => pure []
    | some '\n' | some '\r' => do
      newline
      statements steps
    | some '#' => do
      comment
      match ← Scan.peek with
      | none => pure []
      | some _ => do
        newline
        statements steps
    | some _ => do
      let first ← statement
      blanks
      comment
      match ← Scan.peek with
      | none => pure [first]
      | some _ => do
        newline
        pure (first :: (← statements steps))

/-- The entries of the document a text stands for. A byte order mark may come first. -/
def parse? (text : Text) : Option (List (Node Scalar × Node Scalar)) :=
  let text := match text with
    | '\uFEFF' :: rest => rest
    | _ => text
  match Scan.whole? (statements (text.length + 1)) text with
  | none => none
  | some statements =>
    (statements.foldlM Draft.add? ⟨[], []⟩).map (Item.entriesToNodes ·.entries)

end Transcript.Toml
