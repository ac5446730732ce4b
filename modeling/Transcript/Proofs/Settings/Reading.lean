import Transcript.Settings.Reading

/-!
# Settings as assignments

A document in any format comes down to a list of settings, each with the node that gives it its
value. No setting occurs twice in it, so every value of the result is that of one node.
-/

namespace Transcript

/-- What may be laid down for a setting. -/
inductive SettingValue where
  | size (value : Option Nat)
  | text (value : Option Text)
  | texts (value : Option (List Text))
  | flag (value : Option Bool)

/-- What is laid down for a setting. -/
def Settings.value (settings : Settings) : SettingKey → SettingValue
  | .window => .size settings.window
  | .dividerLength => .size settings.dividerLength
  | .headerPrefix => .text settings.headerPrefix
  | .indicators => .texts settings.indicators
  | .noiseMarkers => .texts settings.noiseMarkers
  | .defaultColumns => .size settings.defaultColumns
  | .columns => .size settings.columns
  | .color => .flag settings.color

theorem Settings.ext_value {settings other : Settings}
    (hvalue : ∀ key, settings.value key = other.value key) : settings = other := by
  obtain ⟨_, _, _, _, _, _, _, _⟩ := settings
  obtain ⟨_, _, _, _, _, _, _, _⟩ := other
  simp only [Settings.mk.injEq]
  exact ⟨SettingValue.size.inj (hvalue .window), SettingValue.size.inj (hvalue .dividerLength),
    SettingValue.text.inj (hvalue .headerPrefix), SettingValue.texts.inj (hvalue .indicators),
    SettingValue.texts.inj (hvalue .noiseMarkers), SettingValue.size.inj (hvalue .defaultColumns),
    SettingValue.size.inj (hvalue .columns), SettingValue.flag.inj (hvalue .color)⟩

namespace Reading

variable {σ : Type} (reading : Reading σ)

/-- The value a node stands for where a setting is given. -/
def value? (key : SettingKey) (node : Node σ) : Option SettingValue :=
  match key with
  | .window | .dividerLength | .defaultColumns | .columns =>
    (reading.optional? (reading.scalar? reading.size?) node).map .size
  | .headerPrefix => (reading.optional? (reading.scalar? reading.text?) node).map .text
  | .indicators | .noiseMarkers => (reading.optional? reading.texts? node).map .texts
  | .color => (reading.optional? (reading.scalar? reading.flag?) node).map .flag

/-- The setting a node names as a key. -/
def key? (node : Node σ) : Option SettingKey :=
  (reading.scalar? reading.keyText? node).bind SettingKey.ofName?

/-- The setting that an entry gives, with the node that gives its value. -/
def assignment? (entry : Node σ × Node σ) : Option (SettingKey × Node σ) :=
  (reading.key? entry.1).map (·, entry.2)

/-- The settings that a document gives, each with the node that gives its value. -/
def assignments : Node σ → List (SettingKey × Node σ)
  | .scalar _ => []
  | .sequence items => SettingKey.all.zip items
  | .mapping entries => entries.filterMap reading.assignment?

/-- Gives settings their values one after the other. -/
def assign? (settings : Settings) (assignments : List (SettingKey × Node σ)) : Option Settings :=
  assignments.foldlM (fun settings (key, node) => reading.set? settings key node) settings

variable {reading}

/-- Giving a setting its value leaves the other ones alone. -/
theorem value_of_set? {settings result : Settings} {key : SettingKey} {node : Node σ}
    (hset : reading.set? settings key node = some result) :
    reading.value? key node = some (result.value key) ∧
      ∀ other, other ≠ key → result.value other = settings.value other := by
  cases key
  all_goals
    obtain ⟨value, hvalue, rfl⟩ := Option.map_eq_some_iff.1 hset
    refine ⟨?_, fun other hother => ?_⟩
    · rw [value?, hvalue]
      rfl
    · cases other <;> first | rfl | exact absurd rfl hother

theorem assign?_cons (settings : Settings) (key : SettingKey) (node : Node σ)
    (rest : List (SettingKey × Node σ)) :
    reading.assign? settings ((key, node) :: rest) =
      (reading.set? settings key node).bind (reading.assign? · rest) := by
  rw [assign?, List.foldlM_cons]
  rfl

/-- An entry is passed over, or it gives a setting that was not given before. -/
theorem entry?_eq_some {state next : List SettingKey × Settings} {entry : Node σ × Node σ}
    (hentry : reading.entry? state entry = some next) :
    (reading.scalar? reading.keyText? entry.1).isSome = true ∧
      ((reading.assignment? entry = none ∧ next = state) ∨
        ∃ key settings, reading.assignment? entry = some (key, entry.2) ∧ key ∉ state.1 ∧
          reading.set? state.2 key entry.2 = some settings ∧
          next = (key :: state.1, settings)) := by
  rw [assignment?, key?]
  revert hentry
  fun_cases entry? reading state entry with
  | case1 => rintro ⟨⟩
  | case2 name hname hkey =>
      rintro ⟨⟩
      rw [hname, Option.bind_some, hkey]
      exact ⟨rfl, .inl ⟨rfl, rfl⟩⟩
  | case3 => rintro ⟨⟩
  | case4 => rintro ⟨⟩
  | case5 name hname key hkey hnew =>
      intro hentry
      obtain ⟨settings, hset, rfl⟩ := Option.map_eq_some_iff.1 hentry
      rw [hname, Option.bind_some, hkey]
      refine ⟨rfl, .inr ⟨key, settings, rfl, ?_, hset, rfl⟩⟩
      rwa [List.elem_eq_mem, decide_eq_true_iff] at hnew

/-- Reading entries one after the other gives the settings among them their values. -/
theorem assign?_of_entries {entries : List (Node σ × Node σ)}
    {state last : List SettingKey × Settings}
    (hentries : entries.foldlM reading.entry? state = some last) :
    reading.assign? state.2 (entries.filterMap reading.assignment?) = some last.2 ∧
      ((entries.filterMap reading.assignment?).map Prod.fst).Nodup ∧
      ∀ assignment ∈ entries.filterMap reading.assignment?, assignment.1 ∉ state.1 := by
  induction entries generalizing state with
  | nil =>
      obtain rfl := Option.some.inj hentries
      exact ⟨rfl, List.nodup_nil, nofun⟩
  | cons entry rest ih =>
      rw [List.foldlM_cons] at hentries
      obtain ⟨next, hentry, hrest⟩ := Option.bind_eq_some_iff.1 hentries
      obtain ⟨hassign, hnodup, hnew⟩ := ih hrest
      obtain ⟨_, ⟨hnone, rfl⟩ | ⟨key, settings, hsome, hkey, hset, rfl⟩⟩ := entry?_eq_some hentry
      · rw [List.filterMap_cons_none hnone]
        exact ⟨hassign, hnodup, hnew⟩
      · rw [List.filterMap_cons_some hsome, assign?_cons, hset, Option.bind_some]
        refine ⟨hassign, ?_, ?_⟩
        · rw [List.map_cons, List.nodup_cons]
          refine ⟨fun hmem => ?_, hnodup⟩
          obtain ⟨assignment, hassignment, heq⟩ := List.mem_map.1 hmem
          exact hnew assignment hassignment (heq ▸ List.mem_cons_self)
        · rintro assignment (_ | ⟨_, hlater⟩)
          · exact hkey
          · exact fun hmem => hnew assignment hlater (List.mem_cons_of_mem key hmem)

theorem isSome_keyText?_of_entries {entries : List (Node σ × Node σ)}
    {state last : List SettingKey × Settings}
    (hentries : entries.foldlM reading.entry? state = some last) :
    ∀ entry ∈ entries, (reading.scalar? reading.keyText? entry.1).isSome = true := by
  induction entries generalizing state with
  | nil => exact nofun
  | cons entry rest ih =>
      rw [List.foldlM_cons] at hentries
      obtain ⟨next, hentry, hrest⟩ := Option.bind_eq_some_iff.1 hentries
      exact List.forall_mem_cons.2 ⟨(entry?_eq_some hentry).1, ih hrest⟩

/-- The settings of a document are its assignments, made one after the other. -/
theorem assign?_of_ofEntries? {entries : List (Node σ × Node σ)} {settings : Settings}
    (hentries : reading.ofEntries? entries = some settings) :
    reading.assign? .empty (reading.assignments (.mapping entries)) = some settings ∧
      ((reading.assignments (.mapping entries)).map Prod.fst).Nodup := by
  obtain ⟨last, hlast, rfl⟩ := Option.map_eq_some_iff.1 hentries
  exact ⟨(assign?_of_entries hlast).1, (assign?_of_entries hlast).2.1⟩

theorem isSome_keyText?_of_ofEntries? {entries : List (Node σ × Node σ)} {settings : Settings}
    (hentries : reading.ofEntries? entries = some settings) :
    ∀ entry ∈ entries, (reading.scalar? reading.keyText? entry.1).isSome = true := by
  obtain ⟨last, hlast, _⟩ := Option.map_eq_some_iff.1 hentries
  exact isSome_keyText?_of_entries hlast

theorem assign?_of_ofItems? {items : List (Node σ)} {settings : Settings}
    (hitems : reading.ofItems? items = some settings) :
    reading.assign? .empty (reading.assignments (.sequence items)) = some settings ∧
      ((reading.assignments (.sequence items)).map Prod.fst).Nodup := by
  obtain ⟨hlength, hassign⟩ := Option.ite_none_left_eq_some.1 hitems
  refine ⟨hassign, ?_⟩
  rw [assignments, List.map_fst_zip (Nat.le_of_not_lt hlength)]
  decide

end Reading

end Transcript
