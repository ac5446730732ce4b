import Transcript.Proofs.Document.Brackets
import Transcript.Proofs.Settings.Reading

/-!
# Two readings of one document

Two formats may understand the scalars of a document differently. The settings they find in it are
the same exactly if they agree on every scalar that gives a setting its value.
-/

namespace Transcript.Reading

variable {σ τ α : Type}

section

variable (f : σ → τ) (alike : σ → Bool)

/-- Where both readers of scalars succeed, they give the same for those that are alike. -/
def AgreeOnScalars (strict : σ → Option α) (loose : τ → Option α) : Prop :=
  ∀ value found found', strict value = some found → loose (f value) = some found' →
    (found' = found ↔ alike value = true)

/-- Where both readers of nodes succeed, they give the same for those whose scalars are alike. -/
def AgreeOnNodes (strict : Node σ → Option α) (loose : Node τ → Option α) : Prop :=
  ∀ node found found', strict node = some found → loose (node.translate f) = some found' →
    (found' = found ↔ node.all alike = true)

theorem AgreeOnNodes.map {β : Type} {f : σ → τ} {alike : σ → Bool} {strict : Node σ → Option α}
    {loose : Node τ → Option α} (hagree : AgreeOnNodes f alike strict loose) {g : α → β}
    (hg : ∀ {a b}, g a = g b → a = b) :
    AgreeOnNodes f alike (fun node => (strict node).map g) (fun node => (loose node).map g) := by
  intro node found found' hfound hfound'
  obtain ⟨value, hvalue, rfl⟩ := Option.map_eq_some_iff.1 hfound
  obtain ⟨value', hvalue', rfl⟩ := Option.map_eq_some_iff.1 hfound'
  rw [← hagree node value value' hvalue hvalue']
  exact ⟨hg, congrArg g⟩

/-- The second reading differs from the first one only in what it makes of scalars that are not
alike. The names of settings are the same in both. -/
structure Follows (strict : Reading σ) (loose : Reading τ) : Prop where
  resolve (node : Node σ) : strict.resolve node = node
  resolve' (node : Node τ) : loose.resolve node = node
  isEmptyList (value : σ) : strict.isEmptyList value = false
  presence (value : σ) : loose.presence (f value) = strict.presence value
  absent (value : σ) : strict.presence value = .absent → alike value = true
  size? : AgreeOnScalars f alike strict.size? loose.size?
  flag? : AgreeOnScalars f alike strict.flag? loose.flag?
  text? : AgreeOnScalars f alike strict.text? loose.text?
  keyText? (value : σ) (name name' : Text) : strict.keyText? value = some name →
    loose.keyText? (f value) = some name' → SettingKey.ofName? name' = SettingKey.ofName? name

end

namespace Follows

variable {f : σ → τ} {alike : σ → Bool} {strict : Reading σ} {loose : Reading τ}

/-! ## Values -/

theorem scalar? (hfollows : Follows f alike strict loose) {read : σ → Option α}
    {read' : τ → Option α} (hread : AgreeOnScalars f alike read read') :
    AgreeOnNodes f alike (strict.scalar? read) (loose.scalar? read') := by
  intro node found found' hfound hfound'
  rw [Reading.scalar?, hfollows.resolve] at hfound
  rw [Reading.scalar?, hfollows.resolve'] at hfound'
  cases node with
  | scalar value =>
      rw [Node.translate_scalar] at hfound'
      rw [Node.all]
      exact hread value found found' hfound hfound'
  | sequence items => cases hfound
  | mapping entries => cases hfound

theorem mapM_eq_iff {read : Node σ → Option α} {read' : Node τ → Option α}
    (hread : AgreeOnNodes f alike read read') (items : List (Node σ)) {found found' : List α}
    (hfound : items.mapM read = some found)
    (hfound' : (items.map (Node.translate f)).mapM read' = some found') :
    found' = found ↔ Node.allItems alike items = true := by
  induction items generalizing found found' with
  | nil =>
      obtain rfl := Option.some.inj hfound
      obtain rfl := Option.some.inj hfound'
      rw [Node.allItems]
      exact iff_of_true rfl rfl
  | cons item rest ih =>
      rw [List.mapM_cons] at hfound
      rw [List.map_cons, List.mapM_cons] at hfound'
      obtain ⟨first, hfirst, hfound⟩ := Option.bind_eq_some_iff.1 hfound
      obtain ⟨later, hlater, hfound⟩ := Option.bind_eq_some_iff.1 hfound
      obtain ⟨first', hfirst', hfound'⟩ := Option.bind_eq_some_iff.1 hfound'
      obtain ⟨later', hlater', hfound'⟩ := Option.bind_eq_some_iff.1 hfound'
      obtain rfl := Option.some.inj hfound
      obtain rfl := Option.some.inj hfound'
      rw [List.cons.injEq, hread item first first' hfirst hfirst', ih hlater hlater',
        Node.allItems, Bool.and_eq_true_iff]

theorem texts? (hfollows : Follows f alike strict loose) :
    AgreeOnNodes f alike strict.texts? loose.texts? := by
  intro node found found' hfound hfound'
  rw [Reading.texts?, hfollows.resolve] at hfound
  rw [Reading.texts?, hfollows.resolve'] at hfound'
  cases node with
  | scalar value =>
      dsimp only at hfound
      rw [hfollows.isEmptyList] at hfound
      cases hfound
  | sequence items =>
      rw [Node.translate_sequence] at hfound'
      rw [Node.all]
      exact mapM_eq_iff (hfollows.scalar? hfollows.text?) items hfound hfound'
  | mapping entries => cases hfound

theorem optional? (hfollows : Follows f alike strict loose) {read : Node σ → Option α}
    {read' : Node τ → Option α} (hread : AgreeOnNodes f alike read read') :
    AgreeOnNodes f alike (strict.optional? read) (loose.optional? read') := by
  intro node found found' hfound hfound'
  have hgiven := hread.map Option.some.inj node found found'
  rw [Reading.optional?, hfollows.resolve] at hfound
  rw [Reading.optional?, hfollows.resolve'] at hfound'
  cases node with
  | scalar value =>
      rw [Node.translate_scalar] at hfound' hgiven
      dsimp only at hfound hfound'
      rw [hfollows.presence] at hfound'
      cases hpresence : strict.presence value with
      | absent =>
          rw [hpresence] at hfound hfound'
          obtain rfl := Option.some.inj hfound
          obtain rfl := Option.some.inj hfound'
          rw [Node.all]
          exact iff_of_true rfl (hfollows.absent value hpresence)
      | present =>
          rw [hpresence] at hfound hfound'
          exact hgiven hfound hfound'
      | malformed =>
          rw [hpresence] at hfound
          cases hfound
  | sequence items =>
      rw [Node.translate_sequence] at hfound' hgiven
      exact hgiven hfound hfound'
  | mapping entries =>
      rw [Node.translate_mapping] at hfound' hgiven
      exact hgiven hfound hfound'

theorem value? (hfollows : Follows f alike strict loose) (key : SettingKey) :
    AgreeOnNodes f alike (strict.value? key) (loose.value? key) := by
  have hsize := hfollows.optional? (hfollows.scalar? hfollows.size?)
  have htext := hfollows.optional? (hfollows.scalar? hfollows.text?)
  have htexts := hfollows.optional? hfollows.texts?
  have hflag := hfollows.optional? (hfollows.scalar? hfollows.flag?)
  cases key
  case window | dividerLength | defaultColumns | columns => exact hsize.map SettingValue.size.inj
  case headerPrefix => exact htext.map SettingValue.text.inj
  case indicators | noiseMarkers => exact htexts.map SettingValue.texts.inj
  case color => exact hflag.map SettingValue.flag.inj

/-! ## Documents -/

theorem key? (hfollows : Follows f alike strict loose) {node : Node σ}
    (hname : (strict.scalar? strict.keyText? node).isSome = true)
    (hname' : (loose.scalar? loose.keyText? (node.translate f)).isSome = true) :
    loose.key? (node.translate f) = strict.key? node := by
  obtain ⟨name, hname⟩ := Option.isSome_iff_exists.1 hname
  obtain ⟨name', hname'⟩ := Option.isSome_iff_exists.1 hname'
  rw [Reading.key?, Reading.key?, hname, hname', Option.bind_some, Option.bind_some]
  rw [Reading.scalar?, hfollows.resolve] at hname
  rw [Reading.scalar?, hfollows.resolve'] at hname'
  cases node with
  | scalar value =>
      rw [Node.translate_scalar] at hname'
      exact hfollows.keyText? value name name' hname hname'
  | sequence items => cases hname
  | mapping entries => cases hname

theorem assignments_translate (hfollows : Follows f alike strict loose)
    {entries : List (Node σ × Node σ)}
    (hnames : ∀ entry ∈ entries, (strict.scalar? strict.keyText? entry.1).isSome = true)
    (hnames' : ∀ entry ∈ entries,
      (loose.scalar? loose.keyText? (entry.1.translate f)).isSome = true) :
    (entries.map (Prod.map (Node.translate f) (Node.translate f))).filterMap loose.assignment? =
      (entries.filterMap strict.assignment?).map (Prod.map id (Node.translate f)) := by
  rw [List.filterMap_map, List.map_filterMap]
  refine List.filterMap_congr fun entry hentry => ?_
  rw [Function.comp_apply, Reading.assignment?, Reading.assignment?, Prod.map_fst, Prod.map_snd,
    hfollows.key? (hnames entry hentry) (hnames' entry hentry), Option.map_map]
  rfl

/-- Giving a setting its value in both readings keeps settings equal if and only if the scalars in
the value are alike. -/
theorem set?_eq_iff (hfollows : Follows f alike strict loose) {key : SettingKey} {node : Node σ}
    {settings settings' next next' : Settings}
    (hsame : settings'.value key = settings.value key)
    (hnext : strict.set? settings key node = some next)
    (hnext' : loose.set? settings' key (node.translate f) = some next') :
    next' = next ↔ settings' = settings ∧ node.all alike = true := by
  obtain ⟨hvalue, hothers⟩ := value_of_set? hnext
  obtain ⟨hvalue', hothers'⟩ := value_of_set? hnext'
  rw [← hfollows.value? key node _ _ hvalue hvalue']
  constructor
  · rintro rfl
    refine ⟨Settings.ext_value fun other => ?_, rfl⟩
    obtain rfl | hother := eq_or_ne other key
    · exact hsame
    · rw [← hothers' other hother, hothers other hother]
  · rintro ⟨rfl, hkey⟩
    refine Settings.ext_value fun other => ?_
    obtain rfl | hother := eq_or_ne other key
    · exact hkey
    · rw [hothers' other hother, hothers other hother]

/-- Assignments made in both readings give the same settings if and only if the scalars in them are
alike. -/
theorem assign?_eq_iff (hfollows : Follows f alike strict loose)
    {assignments : List (SettingKey × Node σ)} (hnodup : (assignments.map Prod.fst).Nodup)
    {settings settings' found found' : Settings}
    (hsame : ∀ assignment ∈ assignments,
      settings'.value assignment.1 = settings.value assignment.1)
    (hfound : strict.assign? settings assignments = some found)
    (hfound' : loose.assign? settings' (assignments.map (Prod.map id (Node.translate f))) =
      some found') :
    found' = found ↔ settings' = settings ∧
      ∀ assignment ∈ assignments, assignment.2.all alike = true := by
  induction assignments generalizing settings settings' with
  | nil =>
      obtain rfl := Option.some.inj hfound
      obtain rfl := Option.some.inj hfound'
      exact (and_iff_left nofun).symm
  | cons assignment rest ih =>
      obtain ⟨key, node⟩ := assignment
      rw [assign?_cons] at hfound
      rw [List.map_cons, Prod.map, assign?_cons] at hfound'
      obtain ⟨next, hnext, hfound⟩ := Option.bind_eq_some_iff.1 hfound
      obtain ⟨next', hnext', hfound'⟩ := Option.bind_eq_some_iff.1 hfound'
      obtain ⟨hfresh, hnodup⟩ := List.nodup_cons.1 hnodup
      obtain ⟨hkey, hrest⟩ := List.forall_mem_cons.1 hsame
      have hkept : ∀ later ∈ rest, next'.value later.1 = next.value later.1 := by
        intro later hlater
        have hother : later.1 ≠ key := fun heq => hfresh (List.mem_map.2 ⟨later, hlater, heq⟩)
        rw [(value_of_set? hnext').2 later.1 hother, (value_of_set? hnext).2 later.1 hother]
        exact hrest later hlater
      rw [ih hnodup hkept hfound hfound', hfollows.set?_eq_iff hkey hnext hnext',
        List.forall_mem_cons, and_assoc]

/-- A mapping that both readings accept gives the same settings in both if and only if the scalars
of its settings are alike. -/
theorem ofEntries?_eq_iff (hfollows : Follows f alike strict loose)
    {entries : List (Node σ × Node σ)} {found found' : Settings}
    (hfound : strict.ofEntries? entries = some found)
    (hfound' : loose.ofEntries? (entries.map (Prod.map (Node.translate f) (Node.translate f))) =
      some found') :
    found' = found ↔
      ∀ assignment ∈ strict.assignments (.mapping entries), assignment.2.all alike = true := by
  obtain ⟨hassign, hnodup⟩ := assign?_of_ofEntries? hfound
  obtain ⟨hassign', -⟩ := assign?_of_ofEntries? hfound'
  have hnames := isSome_keyText?_of_ofEntries? hfound
  have hnames' := isSome_keyText?_of_ofEntries? hfound'
  rw [List.forall_mem_map] at hnames'
  rw [assignments, hfollows.assignments_translate hnames hnames'] at hassign'
  rw [hfollows.assign?_eq_iff hnodup (fun _ _ => rfl) hassign hassign']
  exact and_iff_right rfl

/-- A list that both readings accept gives the same settings in both if and only if the scalars of
its settings are alike. -/
theorem ofItems?_eq_iff (hfollows : Follows f alike strict loose)
    {items : List (Node σ)} {found found' : Settings}
    (hfound : strict.ofItems? items = some found)
    (hfound' : loose.ofItems? (items.map (Node.translate f)) = some found') :
    found' = found ↔
      ∀ assignment ∈ strict.assignments (.sequence items), assignment.2.all alike = true := by
  obtain ⟨hassign, hnodup⟩ := assign?_of_ofItems? hfound
  obtain ⟨hassign', -⟩ := assign?_of_ofItems? hfound'
  rw [assignments, List.zip_map_right] at hassign'
  rw [hfollows.assign?_eq_iff hnodup (fun _ _ => rfl) hassign hassign']
  exact and_iff_right rfl

end Follows

end Transcript.Reading
