import Transcript.Proofs.Document.Piece
import Transcript.Proofs.Document.Relaxed
import Transcript.Proofs.Settings.Agreement
import Transcript.Proofs.Settings.Lookup

/-!
# Settings in strict JSON

A settings file in strict JSON is read as JSON5 first. That attempt may fail, in which case nothing
is lost. If it succeeds, the settings are those of the strict notation, except for sizes that have
more than 53 significant bits and for escaped characters of an even plane.
-/

namespace Transcript

/-! ## Sizes -/

/-- Whether JSON5 keeps a size as it is. It rounds sizes to 53 significant bits, and the greatest
size is what greater numbers are brought to. -/
def Json5.keepsSize (size : Nat) : Bool := Binary.isExact size || size = maxSize

theorem Json5.min_floor_eq_iff {size : Nat} (hsize : size ≤ maxSize) :
    min (Binary.ofQuotient size 1).floor maxSize = size ↔ keepsSize size = true := by
  have hmax : maxSize ≤ (Binary.ofQuotient maxSize 1).floor := by decide +kernel
  rw [keepsSize, Bool.or_eq_true_iff, decide_eq_true_iff, ← Binary.floor_ofQuotient_one_eq_iff]
  constructor
  · intro hmin
    omega
  · rintro (hexact | rfl)
    · rw [hexact]
      exact Nat.min_eq_left hsize
    · exact Nat.min_eq_right hmax

namespace Json

theorem size?_relaxed {written : Text} {size size' : Nat} (hsize : size? written = some size)
    (hsize' : Json5.size? written = some size') :
    size' = size ↔ Json5.keepsSize size = true := by
  obtain ⟨hnumeral, hfits⟩ := Option.filter_eq_some_iff.1 hsize
  obtain ⟨hdigits, hvalue⟩ := Option.ite_none_left_eq_some.1 hnumeral
  obtain rfl := Option.some.inj hvalue
  rw [Bool.or_eq_true_iff, not_or, Bool.not_eq_true', Bool.not_eq_false] at hdigits
  cases written with
  | nil => exact absurd rfl hdigits.1
  | cons c digits =>
      have hall : ∀ d ∈ c :: digits, Text.isDigit d = true := fun d hd =>
        Text.isDigit_of_isDigitOf_ten (List.all_eq_true.1 hdigits.2 d hd)
      rw [Json5.size?_digits hall hsize', Json5.min_floor_eq_iff (of_decide_eq_true hfits)]

/-! ## Scalars -/

/-- Whether JSON5 understands the scalar as strict JSON does. -/
def Scalar.isPortable : Scalar → Bool
  | .number written => (size? written).all Json5.keepsSize
  | .string pieces => pieces.all Piece.joinsAlike
  | .null | .flag _ => true

theorem ofName?_eq_some {name : Text} {key : SettingKey} (hkey : SettingKey.ofName? name = some key) :
    key.name = name := by
  have hfound := List.find?_some hkey
  exact of_decide_eq_true hfound

theorem name_basic (key : SettingKey) : ∀ c ∈ key.name, c.toNat < 0x10000 := by
  have hall : key.name.all (fun c => c.toNat < 0x10000) = true := by cases key <;> rfl
  exact fun c hc => of_decide_eq_true (List.all_eq_true.1 hall c hc)

/-- A key names the same setting in both notations, because no name needs a pair. -/
theorem ofName?_relaxed {pieces : List Piece} {name name' : Text}
    (hname : Piece.text? Piece.utf16Pair pieces = some name)
    (hname' : Piece.text? Json5.pair pieces = some name') :
    SettingKey.ofName? name' = SettingKey.ofName? name := by
  cases hkey : SettingKey.ofName? name with
  | some key =>
      obtain rfl := ofName?_eq_some hkey
      rw [Piece.text?_eq_of_basic Piece.astral_utf16Pair hname hname' (name_basic key), hkey]
  | none =>
      cases hkey' : SettingKey.ofName? name' with
      | none => rfl
      | some key =>
          obtain rfl := ofName?_eq_some hkey'
          rw [Piece.text?_eq_of_basic Piece.astral_json5_pair hname' hname (name_basic key),
            hkey'] at hkey
          cases hkey

theorem reading_follows :
    Reading.Follows Scalar.relaxed Scalar.isPortable reading Json5.reading where
  resolve _ := rfl
  resolve' _ := rfl
  isEmptyList _ := rfl
  presence value := by
    cases value with
    | flag value => cases value <;> decide
    | null => decide
    | number written => rfl
    | string pieces => rfl
  absent value hvalue := by
    cases value with
    | null => rfl
    | _ => cases hvalue
  size? value size size' hsize hsize' := by
    cases value with
    | number written =>
        have hsize : size? written = some size := hsize
        rw [Scalar.isPortable, hsize]
        exact size?_relaxed hsize hsize'
    | _ => cases hsize
  flag? value flag flag' hflag hflag' := by
    cases value with
    | flag value =>
        obtain rfl := Option.some.inj hflag
        have hflag' : flag' = value := by
          cases value <;> exact (Option.some.inj hflag').symm
        exact iff_of_true hflag' rfl
    | _ => cases hflag
  text? value text text' htext htext' := by
    cases value with
    | string pieces =>
        rw [Scalar.isPortable, List.all_eq_true]
        exact Piece.text?_json5_eq_iff htext htext'
    | _ => cases htext
  keyText? value name name' hname hname' := by
    cases value with
    | string pieces => exact ofName?_relaxed hname hname'
    | _ => cases hname

/-! ## Documents -/

/-- Whether JSON5 understands every scalar that gives a setting its value as strict JSON does. -/
def isPortable (text : Text) : Bool :=
  (parse? text).all fun root =>
    (reading.assignments root).all fun assignment => assignment.2.all Scalar.isPortable

/-- Settings that both notations find in a text are the same if and only if the text is portable. -/
theorem settings?_eq_iff {text : Text} {settings settings' : Settings}
    (hsettings : settings? text = some settings)
    (hsettings' : Json5.settings? text = some settings') :
    settings' = settings ↔ isPortable text = true := by
  cases hparse : parse? text with
  | none =>
      rw [settings?, hparse] at hsettings
      cases hsettings
  | some root =>
      cases hparse' : Json5.parse? text with
      | none =>
          rw [Json5.settings?, hparse'] at hsettings'
          cases hsettings'
      | some loose =>
          obtain rfl := parse?_relaxed hparse hparse'
          rw [settings?, hparse] at hsettings
          rw [Json5.settings?, hparse'] at hsettings'
          rw [isPortable, hparse, Option.all_some, List.all_eq_true]
          cases root with
          | scalar value => cases hsettings
          | mapping entries =>
              rw [Node.translate_mapping] at hsettings'
              exact reading_follows.ofEntries?_eq_iff hsettings hsettings'
          | sequence items =>
              rw [Node.translate_sequence] at hsettings'
              obtain ⟨_, hitems⟩ := Option.ite_none_right_eq_some.1 hsettings
              exact reading_follows.ofItems?_eq_iff hitems hsettings'

end Json

namespace Settings

variable {m : Type → Type} [Monad m]

/-- Every ending but three goes with JSON. -/
theorem Format.ofExtension_eq_json {extension : Option Text}
    (hextension : String.ofList ((extension.getD []).map Char.toLower) ∉ ["toml", "yaml", "yml"]) :
    ofExtension extension = .json := by
  simp only [List.mem_cons, List.not_mem_nil, or_false, not_or] at hextension
  obtain ⟨htoml, hyaml, hyml⟩ := hextension
  rw [ofExtension, if_neg htoml, decide_eq_false hyaml, decide_eq_false hyml]
  rfl

/-- A file in strict JSON whose name does not call for another format has settings. They are the
ones of the strict notation if and only if JSON5 cannot read the file, or else keeps every size and
joins every pair of surrogates in it that gives a setting its value. -/
theorem ofFile_strict [LawfulMonad m] {system : FileSystem m} {path text : Text} {bytes : Bytes}
    {settings : Settings} (hread : system.read path = pure (.ok bytes))
    (htext : Text.ofUtf8? bytes = some text)
    (hextension : String.ofList (((Path.extension? path).getD []).map Char.toLower) ∉
      ["toml", "yaml", "yml"])
    (hstrict : Json.settings? text = some settings) :
    ∃ found, ofFile system path = pure (.ok found) ∧
      (found = settings ↔ Json5.settings? text = none ∨ Json.isPortable text = true) := by
  rw [ofFile_of_read hread, ofBytes, htext, Format.ofExtension_eq_json hextension]
  cases hloose : Json5.settings? text with
  | none =>
      refine ⟨settings, ?_, iff_of_true rfl (.inl rfl)⟩
      simp only [Format.settings?, hloose, hstrict]
  | some found =>
      refine ⟨found, ?_, ?_⟩
      · simp only [Format.settings?, hloose]
      · rw [Json.settings?_eq_iff hstrict hloose]
        exact (or_iff_right nofun).symm

/-- A directory with one settings file in it. -/
def soleFile (text : Text) : FileSystem Id :=
  FileTree.system ⟨[([['a']], .file text.utf8)]⟩ []

/-- A size of 53 bits and a character of plane 1. -/
theorem ofFile_strict_portable :
    let text : Text :=
      "\x7b\"columns\": 9007199254740991, \"headerPrefix\": \"\\ud83d\\ude00\"\x7d".toList
    let settings : Settings :=
      ⟨none, none, some [Char.ofNat 0x1F600], none, none, none, some 9007199254740991, none⟩
    (soleFile text).read ['a'] = .ok text.utf8 ∧ Text.ofUtf8? text.utf8 = some text ∧
      String.ofList (((Path.extension? ['a']).getD []).map Char.toLower) ∉
        ["toml", "yaml", "yml"] ∧
      Json.settings? text = some settings ∧ ofFile (soleFile text) ['a'] = .ok settings := by
  intro text settings
  have hread : (soleFile text).read ['a'] = .ok text.utf8 := by rfl
  have htext : Text.ofUtf8? text.utf8 = some text := by decide +kernel
  have hextension : String.ofList (((Path.extension? ['a']).getD []).map Char.toLower) ∉
      ["toml", "yaml", "yml"] := by decide
  have hstrict : Json.settings? text = some settings := by decide +kernel
  have hportable : Json.isPortable text = true := by decide +kernel
  obtain ⟨found, hfound, hsame⟩ := ofFile_strict hread htext hextension hstrict
  rw [hsame.2 (.inr hportable)] at hfound
  exact ⟨hread, htext, hextension, hstrict, hfound⟩

/-- A size of 54 bits is rounded, and a character of plane 2 becomes one of plane 1. -/
theorem ofFile_rounded :
    let text : Text :=
      "\x7b\"columns\": 9007199254740993, \"headerPrefix\": \"\\ud840\\udc00\"\x7d".toList
    Json.settings? text = some
        ⟨none, none, some [Char.ofNat 0x20000], none, none, none, some 9007199254740993, none⟩ ∧
      (ofFile (soleFile text) ['a']).toOption = some
        ⟨none, none, some [Char.ofNat 0x10000], none, none, none, some 9007199254740992, none⟩ := by
  decide +kernel

end Settings

end Transcript
