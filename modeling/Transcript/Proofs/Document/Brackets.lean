import Mathlib.Data.List.Chain
import Transcript.Document.Brackets

/-!
# Documents in brackets in two formats

A document in brackets can be carried over to a format with other scalars, scalar by scalar. A
format that is at least as generous then reads the same document from the same tokens.
-/

namespace Transcript

variable {σ τ : Type}

namespace Node

mutual

/-- The node with every scalar translated. -/
def translate (f : σ → τ) : Node σ → Node τ
  | .scalar value => .scalar (f value)
  | .sequence items => .sequence (translateItems f items)
  | .mapping entries => .mapping (translateEntries f entries)

/-- The items with every scalar translated. -/
def translateItems (f : σ → τ) : List (Node σ) → List (Node τ)
  | [] => []
  | item :: rest => translate f item :: translateItems f rest

/-- The entries with every scalar translated. -/
def translateEntries (f : σ → τ) : List (Node σ × Node σ) → List (Node τ × Node τ)
  | [] => []
  | (key, value) :: rest => (translate f key, translate f value) :: translateEntries f rest

end

theorem translateItems_eq (f : σ → τ) (items : List (Node σ)) :
    translateItems f items = items.map (translate f) := by
  induction items with
  | nil => rw [translateItems, List.map_nil]
  | cons item rest ih => rw [translateItems, ih, List.map_cons]

theorem translateEntries_eq (f : σ → τ) (entries : List (Node σ × Node σ)) :
    translateEntries f entries = entries.map (Prod.map (translate f) (translate f)) := by
  induction entries with
  | nil => rw [translateEntries, List.map_nil]
  | cons entry rest ih => rw [translateEntries, ih, List.map_cons, Prod.map]

@[simp]
theorem translate_scalar (f : σ → τ) (value : σ) :
    translate f (.scalar value) = .scalar (f value) := by
  rw [translate]

@[simp]
theorem translate_sequence (f : σ → τ) (items : List (Node σ)) :
    translate f (.sequence items) = .sequence (items.map (translate f)) := by
  rw [translate, translateItems_eq]

@[simp]
theorem translate_mapping (f : σ → τ) (entries : List (Node σ × Node σ)) :
    translate f (.mapping entries) =
      .mapping (entries.map (Prod.map (translate f) (translate f))) := by
  rw [translate, translateEntries_eq]

end Node

namespace Brackets

namespace Token

/-- The token with its scalar translated, if it is one. -/
def translate (f : σ → τ) : Token σ → Token τ
  | .openList => .openList
  | .closeList => .closeList
  | .openMap => .openMap
  | .closeMap => .closeMap
  | .comma => .comma
  | .colon => .colon
  | .scalar value => .scalar (f value)

/-- Whether the token is a scalar. -/
def isScalar : Token σ → Bool
  | .scalar _ => true
  | _ => false

/-- No two scalars follow one another. -/
def Separated (tokens : List (Token σ)) : Prop :=
  tokens.IsChain fun first second => first.isScalar = true → second.isScalar = false

end Token

/-- The open collection with every scalar translated. -/
def Frame.translate (f : σ → τ) : Frame σ → Frame τ
  | .list items => .list (items.map (Node.translate f))
  | .map entries => .map (entries.map (Prod.map (Node.translate f) (Node.translate f)))
  | .entry entries key =>
    .entry (entries.map (Prod.map (Node.translate f) (Node.translate f))) (key.translate f)

/-- The second grammar allows the translation of all that the first one does. -/
structure Grammar.Widens (f : σ → τ) (strict : Grammar σ) (loose : Grammar τ) : Prop where
  trailingComma : strict.trailingComma = true → loose.trailingComma = true
  isKey : ∀ value, strict.isKey value = true → loose.isKey (f value) = true
  isValue : ∀ value, strict.isValue value = true → loose.isValue (f value) = true

namespace State

/-- The second state holds the translation of what the first one does, and a collection may end
in it wherever one may end in the first. -/
inductive Widens (f : σ → τ) : State σ → State τ → Prop
  | value (stack : List (Frame σ)) {closable closable' : Bool}
      (hclosable : closable = true → closable' = true) :
      Widens f (.value closable stack) (.value closable' (stack.map (Frame.translate f)))
  | key (entries : List (Node σ × Node σ)) (stack : List (Frame σ)) {closable closable' : Bool}
      (hclosable : closable = true → closable' = true) :
      Widens f (.key closable entries stack)
        (.key closable' (entries.map (Prod.map (Node.translate f) (Node.translate f)))
          (stack.map (Frame.translate f)))
  | colon (key : Node σ) (entries : List (Node σ × Node σ)) (stack : List (Frame σ)) :
      Widens f (.colon key entries stack)
        (.colon (key.translate f) (entries.map (Prod.map (Node.translate f) (Node.translate f)))
          (stack.map (Frame.translate f)))
  | separator (stack : List (Frame σ)) :
      Widens f (.separator stack) (.separator (stack.map (Frame.translate f)))
  | complete (root : Node σ) : Widens f (.complete root) (.complete (root.translate f))

theorem put_widens (f : σ → τ) (node : Node σ) (stack : List (Frame σ)) :
    Widens f (put node stack) (put (node.translate f) (stack.map (Frame.translate f))) := by
  cases stack with
  | nil => exact .complete node
  | cons frame stack =>
      cases frame with
      | list items => exact .separator (.list (node :: items) :: stack)
      | map entries => exact .separator (.map entries :: stack)
      | entry entries name => exact .separator (.map ((name, node) :: entries) :: stack)

theorem put_sequence_widens (f : σ → τ) (items : List (Node σ)) (stack : List (Frame σ)) :
    Widens f (put (.sequence items.reverse) stack)
      (put (.sequence (items.map (Node.translate f)).reverse)
        (stack.map (Frame.translate f))) := by
  rw [← List.map_reverse, ← Node.translate_sequence]
  exact put_widens f _ stack

theorem put_mapping_widens (f : σ → τ) (entries : List (Node σ × Node σ))
    (stack : List (Frame σ)) :
    Widens f (put (.mapping entries.reverse) stack)
      (put (.mapping (entries.map (Prod.map (Node.translate f) (Node.translate f))).reverse)
        (stack.map (Frame.translate f))) := by
  rw [← List.map_reverse, ← Node.translate_mapping]
  exact put_widens f _ stack

variable {f : σ → τ} {strict : Grammar σ} {loose : Grammar τ}

/-- What the first grammar takes in a state, the second one takes in a wider one. -/
theorem step_widens (hgrammar : strict.Widens f loose) {state next : State σ} {state' : State τ}
    {token : Token σ} (hwidens : Widens f state state')
    (hstep : step strict state token = some next) :
    ∃ next', step loose state' (token.translate f) = some next' ∧ Widens f next next' := by
  revert hstep
  fun_cases step strict state token with
  | case1 closable stack value hvalue =>
      rintro ⟨⟩
      obtain ⟨_, _⟩ := hwidens
      exact ⟨_, if_pos (hgrammar.isValue value hvalue), put_widens f (.scalar value) stack⟩
  | case3 closable stack =>
      rintro ⟨⟩
      obtain ⟨_, _⟩ := hwidens
      exact ⟨_, rfl, .value (.list [] :: stack) id⟩
  | case4 closable stack =>
      rintro ⟨⟩
      obtain ⟨_, _⟩ := hwidens
      exact ⟨_, rfl, .key [] stack id⟩
  | case5 items stack =>
      rintro ⟨⟩
      obtain ⟨_, hclosable⟩ := hwidens
      obtain rfl := hclosable rfl
      exact ⟨_, rfl, put_sequence_widens f items stack⟩
  | case6 closable entries stack value hkey =>
      rintro ⟨⟩
      obtain ⟨_, _⟩ := hwidens
      exact ⟨_, if_pos (hgrammar.isKey value hkey), .colon (.scalar value) entries stack⟩
  | case8 entries stack =>
      rintro ⟨⟩
      obtain _ | ⟨_, _, hclosable⟩ := hwidens
      obtain rfl := hclosable rfl
      exact ⟨_, rfl, put_mapping_widens f entries stack⟩
  | case9 name entries stack =>
      rintro ⟨⟩
      obtain ⟨⟩ := hwidens
      exact ⟨_, rfl, .value (.entry entries name :: stack) nofun⟩
  | case10 items stack =>
      rintro ⟨⟩
      obtain ⟨⟩ := hwidens
      exact ⟨_, rfl, .value (.list items :: stack) hgrammar.trailingComma⟩
  | case11 items stack =>
      rintro ⟨⟩
      obtain ⟨⟩ := hwidens
      exact ⟨_, rfl, put_sequence_widens f items stack⟩
  | case12 entries stack =>
      rintro ⟨⟩
      obtain ⟨⟩ := hwidens
      exact ⟨_, rfl, .key entries stack hgrammar.trailingComma⟩
  | case13 entries stack =>
      rintro ⟨⟩
      obtain ⟨⟩ := hwidens
      exact ⟨_, rfl, put_mapping_widens f entries stack⟩
  | case2 | case7 | case14 => rintro ⟨⟩

theorem run_widens (hgrammar : strict.Widens f loose) (tokens : List (Token σ))
    {state last : State σ} {state' : State τ} (hwidens : Widens f state state')
    (hrun : tokens.foldlM (step strict) state = some last) :
    ∃ last', (tokens.map (Token.translate f)).foldlM (step loose) state' = some last' ∧
      Widens f last last' := by
  induction tokens generalizing state state' with
  | nil =>
      obtain rfl : state = last := Option.some.inj hrun
      exact ⟨state', rfl, hwidens⟩
  | cons token rest ih =>
      rw [List.foldlM_cons] at hrun
      obtain ⟨next, hstep, hrest⟩ := Option.bind_eq_some_iff.1 hrun
      obtain ⟨next', hstep', hnext⟩ := step_widens hgrammar hwidens hstep
      obtain ⟨last', hrest', hlast⟩ := ih hnext hrest
      refine ⟨last', ?_, hlast⟩
      rw [List.map_cons, List.foldlM_cons, hstep']
      exact hrest'

theorem step_put_scalar (grammar : Grammar σ) (node : Node σ) (stack : List (Frame σ)) (value : σ) :
    step grammar (put node stack) (.scalar value) = none := by
  cases stack with
  | nil => rfl
  | cons frame stack => cases frame <;> rfl

/-- No scalar is taken right after another one. -/
theorem step_scalar_scalar {grammar : Grammar σ} {state next : State σ} {value : σ}
    (hstep : step grammar state (.scalar value) = some next) (other : σ) :
    step grammar next (.scalar other) = none := by
  cases state with
  | value closable stack =>
      obtain ⟨_, ⟨⟩⟩ := Option.ite_none_right_eq_some.1 hstep
      exact step_put_scalar grammar (.scalar value) stack other
  | key closable entries stack =>
      obtain ⟨_, ⟨⟩⟩ := Option.ite_none_right_eq_some.1 hstep
      rfl
  | colon name entries stack => cases hstep
  | separator stack =>
      cases stack with
      | nil => cases hstep
      | cons frame stack => cases frame <;> cases hstep
  | complete root => cases hstep

theorem run_separated {grammar : Grammar σ} (tokens : List (Token σ)) {state last : State σ}
    (hrun : tokens.foldlM (step grammar) state = some last) : Token.Separated tokens := by
  induction tokens generalizing state with
  | nil => exact .nil
  | cons token rest ih =>
      rw [List.foldlM_cons] at hrun
      obtain ⟨next, hstep, hrest⟩ := Option.bind_eq_some_iff.1 hrun
      cases rest with
      | nil => exact .singleton token
      | cons second rest =>
          refine .cons_cons ?_ (ih hrest)
          intro hscalar
          cases token with
          | scalar value =>
              cases second with
              | scalar other =>
                  rw [List.foldlM_cons, step_scalar_scalar hstep other] at hrest
                  cases hrest
              | _ => rfl
          | _ => cases hscalar

end State

theorem parse?_eq_some_iff {grammar : Grammar σ} {tokens : List (Token σ)} {root : Node σ} :
    parse? grammar tokens = some root ↔
      tokens.foldlM (State.step grammar) (.value false []) = some (.complete root) := by
  rw [parse?]
  split
  next last hrun => rw [hrun, Option.some.injEq, Option.some.injEq, State.complete.injEq]
  next hother => exact ⟨nofun, fun hrun => absurd hrun (hother root)⟩

/-- The tokens of a document are separated. -/
theorem separated_of_parse? {grammar : Grammar σ} {tokens : List (Token σ)} {root : Node σ}
    (hparse : parse? grammar tokens = some root) : Token.Separated tokens :=
  State.run_separated tokens (parse?_eq_some_iff.1 hparse)

/-- A more generous format reads the same document from the same tokens. -/
theorem parse?_translate {f : σ → τ} {strict : Grammar σ} {loose : Grammar τ}
    (hgrammar : strict.Widens f loose) {tokens : List (Token σ)} {root : Node σ}
    (hparse : parse? strict tokens = some root) :
    parse? loose (tokens.map (Token.translate f)) = some (root.translate f) := by
  obtain ⟨last, hrun, hlast⟩ :=
    State.run_widens hgrammar tokens (.value [] id) (parse?_eq_some_iff.1 hparse)
  obtain ⟨⟩ := hlast
  exact parse?_eq_some_iff.2 hrun

end Brackets

end Transcript
