import Transcript.Document.Basic
import Transcript.Settings

/-! # Settings in documents

How the settings are found in a document of any format. A document maps names to values.
A name that is not one of a setting is passed over, a setting given twice is an error,
and so is a value of the wrong sort.
-/

namespace Transcript

/-- The settings by name, in the order of a document that gives no names. -/
inductive SettingKey where
  | window
  | dividerLength
  | headerPrefix
  | indicators
  | noiseMarkers
  | defaultColumns
  | columns
  | color
  deriving DecidableEq

namespace SettingKey

/-- All settings, in order. -/
def all : List SettingKey :=
  [window, dividerLength, headerPrefix, indicators, noiseMarkers, defaultColumns, columns, color]

/-- The name of a setting in a document. -/
def name : SettingKey → Text
  | window => "lookaheadWindow".toList
  | dividerLength => "dividerMinLen".toList
  | headerPrefix => "headerPrefix".toList
  | indicators => "indicators".toList
  | noiseMarkers => "noiseMarkers".toList
  | defaultColumns => "defaultColumns".toList
  | columns => "columns".toList
  | color => "color".toList

/-- The setting of a name. -/
def ofName? (name : Text) : Option SettingKey := all.find? (·.name = name)

end SettingKey

/-- Whether a scalar is a value. -/
inductive Presence where
  | absent
  | present
  | malformed
  deriving DecidableEq

/-- How the scalars of a format are understood. -/
structure Reading (σ : Type) where
  /-- The node another one stands for. -/
  resolve : Node σ → Node σ := id
  /-- Whether a scalar gives a setting a value. -/
  presence : σ → Presence
  /-- The size a scalar stands for. -/
  size? : σ → Option Nat
  /-- The truth value a scalar stands for. -/
  flag? : σ → Option Bool
  /-- The text a scalar stands for. -/
  text? : σ → Option Text
  /-- The name a scalar stands for as a key. -/
  keyText? : σ → Option Text
  /-- Whether a scalar stands for a list without items. -/
  isEmptyList : σ → Bool := fun _ => false
  /-- Whether a scalar may stand where no particular value is asked for. -/
  isOrdinary : σ → Bool := fun _ => true

namespace Reading

variable {σ : Type} {α : Type}

/-- Reads a node that has to be a scalar. -/
def scalar? (reading : Reading σ) (read : σ → Option α) (node : Node σ) : Option α :=
  match reading.resolve node with
  | .scalar value => read value
  | _ => none

/-- Reads a list of texts. -/
def texts? (reading : Reading σ) (node : Node σ) : Option (List Text) :=
  match reading.resolve node with
  | .scalar value => if reading.isEmptyList value then some [] else none
  | .sequence items => items.mapM (reading.scalar? reading.text?)
  | .mapping _ => none

/-- Reads a value that may be absent. -/
def optional? (reading : Reading σ) (read : Node σ → Option α) (node : Node σ) :
    Option (Option α) :=
  match reading.resolve node with
  | .scalar value =>
    match reading.presence value with
    | .absent => some none
    | .present => (read node).map some
    | .malformed => none
  | _ => (read node).map some

/-- Gives a setting the value a node stands for. -/
def set? (reading : Reading σ) (settings : Settings) (key : SettingKey) (node : Node σ) :
    Option Settings :=
  let size := reading.optional? (reading.scalar? reading.size?) node
  let texts := reading.optional? reading.texts? node
  match key with
  | .window => size.map fun value => { settings with window := value }
  | .dividerLength => size.map fun value => { settings with dividerLength := value }
  | .headerPrefix =>
    (reading.optional? (reading.scalar? reading.text?) node).map fun value =>
      { settings with headerPrefix := value }
  | .indicators => texts.map fun value => { settings with indicators := value }
  | .noiseMarkers => texts.map fun value => { settings with noiseMarkers := value }
  | .defaultColumns => size.map fun value => { settings with defaultColumns := value }
  | .columns => size.map fun value => { settings with columns := value }
  | .color =>
    (reading.optional? (reading.scalar? reading.flag?) node).map fun value =>
      { settings with color := value }

/-- Reads one entry, given the settings seen so far and their values. -/
def entry? (reading : Reading σ) (state : List SettingKey × Settings)
    (entry : Node σ × Node σ) : Option (List SettingKey × Settings) :=
  match reading.scalar? reading.keyText? entry.1 with
  | none => none
  | some name =>
    match SettingKey.ofName? name with
    | none => if entry.2.all reading.isOrdinary then some state else none
    | some key =>
      if state.1.elem key then none
      else (reading.set? state.2 key entry.2).map (key :: state.1, ·)

/-- The settings of a document that maps names to values. -/
def ofEntries? (reading : Reading σ) (entries : List (Node σ × Node σ)) : Option Settings :=
  (entries.foldlM reading.entry? ([], Settings.empty)).map (·.2)

/-- The settings of a document that lists all values in order. Further items are passed
over. -/
def ofItems? (reading : Reading σ) (items : List (Node σ)) : Option Settings :=
  if items.length < SettingKey.all.length then none
  else (SettingKey.all.zip items).foldlM (fun settings (key, node) =>
    reading.set? settings key node) Settings.empty

end Reading

end Transcript
