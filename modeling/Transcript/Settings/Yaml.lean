import Transcript.Document.Yaml
import Transcript.Settings.Reading

/-! # Settings in YAML

Plain scalars of any look are texts, and as sizes and truth values they follow the core
schema, with binary numbers besides. A tag on a value hardly matters: it can make a
literal block a size or a truth value, and a plain null a value that is present.
-/

namespace Transcript.Yaml

/-- The tag of a type of the core schema. -/
def coreTag (name : String) : Text := "tag:yaml.org,2002:".toList ++ name.toList

/-- Whether a plain scalar is written as null. -/
def isNull (content : Text) : Bool :=
  ["null".toList, "Null".toList, "NULL".toList, ['~']].elem content

/-- A truth value as it is written. -/
def flag? (content : Text) : Option Bool :=
  if ["true".toList, "True".toList, "TRUE".toList].elem content then some true
  else if ["false".toList, "False".toList, "FALSE".toList].elem content then some false
  else none

/-- The bases of sizes besides ten, by the letter after a leading zero. -/
def letterBase? : Char → Option Nat
  | 'x' => some 16
  | 'o' => some 8
  | 'b' => some 2
  | _ => none

/-- Digits to the base of the letter after a leading zero, if there is one. -/
def lettered? : Text → Option Nat
  | '0' :: letter :: digits => (letterBase? letter).bind (Text.numeral? · digits)
  | _ => none

/-- A size as it is written, after its plus sign. A decimal one has no leading zeros. -/
def unsigned? (content : Text) : Option Nat :=
  (lettered? content).or
    (if content.length = 1 || content.head? != some '0' then Text.numeral? 10 content else none)

/-- A size as it is written. -/
def size? (content : Text) : Option Nat :=
  let digits := match content with
    | '+' :: rest => rest
    | _ => content
  (unsigned? digits).filter (· ≤ maxSize)

/-- Whether a scalar may stand for a value of the core type `name`: it is plain, or it is
a literal block with the tag of the type. -/
def mayBe (name : String) (style : Style) (tag : Option Text) : Bool :=
  style = .plain || (style = .literal && tag = some (coreTag name))

/-- How the scalars of a YAML document are understood. -/
def Document.reading (document : Document) : Reading Scalar where
  resolve := document.resolve
  presence
    | .written .plain (some tag) content =>
      if tag = coreTag "null" then if isNull content then .absent else .malformed
      else .present
    | .written .plain none content =>
      if content.isEmpty || isNull content then .absent else .present
    | .written _ _ _ => .present
    | .alias _ => .malformed
  size?
    | .written style tag content => if mayBe "int" style tag then size? content else none
    | .alias _ => none
  flag?
    | .written style tag content => if mayBe "bool" style tag then flag? content else none
    | .alias _ => none
  text?
    | .written _ _ content => some content
    | .alias _ => none
  keyText?
    | .written _ _ content => some content
    | .alias _ => none
  isEmptyList
    | .written .plain _ [] => true
    | _ => false

/-- The settings of a YAML text. An empty document has none. -/
def settings? (text : Text) : Option Settings :=
  match parse? text with
  | none => none
  | some document =>
    match document.root with
    | .mapping entries => document.reading.ofEntries? entries
    | .scalar (.written .plain _ []) => some .empty
    | _ => none

end Transcript.Yaml
