import Transcript.Document.Basic
import Transcript.Document.Yaml.Token

/-! # YAML

Nodes are built from the words of a text. An anchor names a node, and an alias stands for
the node that has the number its name had at that place.
-/

namespace Transcript.Yaml

/-- The scalars of YAML, with their tags written out. An alias counts as a scalar until
it is resolved. -/
inductive Scalar where
  | written (style : Style) (tag : Option Text) (content : Text)
  | alias (number : Nat)

/-- A scalar that is not there. -/
def absent : Node Scalar := .scalar (.written .plain none [])

/-- Nodes that are partly built. -/
structure Building where
  /-- The words to come. -/
  tokens : List Token
  /-- What the handles of tags stand for. -/
  handles : List (Text × Text)
  /-- The names of anchors with their numbers. -/
  names : List (Text × Nat)
  /-- The numbers of anchors with the places of their nodes, latest first. -/
  places : List (Nat × Nat)
  /-- The nodes that are complete, by place. -/
  nodes : List (Nat × Node Scalar)

/-- A step in building nodes. -/
abbrev Build := StateT Building Option

namespace Build

/-- The next word, which stays. -/
def peek : Build (Option Token) := do pure (← get).tokens.head?

/-- Drops the next word. -/
def skip : Build Unit :=
  modify fun building => { building with tokens := building.tokens.tail }

/-- Takes the next word if it is the given one, and tells whether it was. -/
def takes (token : Token) : Build Bool := do
  if (← peek) = some token then
    skip
    pure true
  else pure false

/-- Whether the next word is one of the given ones. -/
def sees (tokens : List Token) : Build Bool := do
  pure ((← peek).any tokens.elem)

/-! ## Anchors and tags -/

/-- Names the node that is about to be built, and gives its place. The number of an anchor
is the number of names before it. -/
def register (name : Text) : Build Nat := do
  let building ← get
  let number := building.names.length
  let place := building.places.length
  set { building with
    names :=
      if building.names.any (·.1 = name) then
        building.names.map fun (other, earlier) =>
          (other, if other = name then number else earlier)
      else building.names ++ [(name, number)]
    places := (number, place) :: building.places }
  pure place

/-- Keeps the node of a place. -/
def keep (place : Option Nat) (node : Node Scalar) : Build Unit :=
  match place with
  | none => pure ()
  | some place =>
    modify fun building => { building with nodes := (place, node) :: building.nodes }

/-- A tag with its handle written out. -/
def expandTag (handle suffix : Text) : Build Text := do
  if handle.isEmpty then pure suffix
  else
    match (← get).handles.lookup handle with
    | some expansion => pure (expansion ++ suffix)
    | none => failure

/-- Takes a tag if there is one. -/
def takeTag : Build (Option Text) := do
  match ← peek with
  | some (.tag handle suffix) => do
    skip
    pure (some (← expandTag handle suffix))
  | _ => pure none

/-- Takes the name of an anchor if there is one. -/
def takeAnchor : Build (Option Text) := do
  match ← peek with
  | some (.anchor name) => do
    skip
    pure (some name)
  | _ => pure none

/-- Takes an anchor and a tag, in either order, if they are there. -/
def properties : Build (Option Text × Option Text) := do
  match ← takeAnchor with
  | some name => pure (some name, ← takeTag)
  | none => do
    let tag ← takeTag
    let name ← if tag.isSome then takeAnchor else pure none
    pure (name, tag)

/-! ## Nodes -/

mutual

/-- Builds a node. Block collections are possible only where `isBlock`, and one of dashes
without an indentation of its own only where `isIndentless`. -/
def node : (fuel : Nat) → (isBlock isIndentless : Bool) → Build (Node Scalar)
  | 0, _, _ => failure
  | fuel + 1, isBlock, isIndentless => do
    match ← peek with
    | some (.alias name) => do
      skip
      match (← get).names.lookup name with
      | some number => pure (.scalar (.alias number))
      | none => failure
    | _ => do
      let (name, tag) ← properties
      let place ← name.mapM register
      let node ← content fuel isBlock isIndentless (name.isSome || tag.isSome) tag
      keep place node
      pure node

/-- Builds a node after its anchor and tag. -/
def content : (fuel : Nat) → (isBlock isIndentless hasProperties : Bool) → Option Text →
    Build (Node Scalar)
  | 0, _, _, _, _ => failure
  | fuel + 1, isBlock, isIndentless, hasProperties, tag => do
    match ← peek with
    | some (.scalar style text) => do
      skip
      pure (.scalar (.written style (tag.filter (· != ['!'])) text))
    | some .flowSequence => do
      skip
      Node.sequence <$> flowItems fuel true
    | some .flowMapping => do
      skip
      Node.mapping <$> flowEntries fuel true
    | some .blockEntry => do
      if isIndentless then Node.sequence <$> indentlessItems fuel
      else if hasProperties then pure (.scalar (.written .plain tag []))
      else failure
    | token => do
      if isBlock && token = some .blockSequence then
        skip
        Node.sequence <$> blockItems fuel
      else if isBlock && token = some .blockMapping then
        skip
        Node.mapping <$> blockEntries fuel
      else if hasProperties then pure (.scalar (.written .plain tag []))
      else failure

/-- Builds the items of a block sequence. -/
def blockItems : (fuel : Nat) → Build (List (Node Scalar))
  | 0 => failure
  | fuel + 1 => do
    if ← takes .blockEnd then pure []
    else if ← takes .blockEntry then
      let item ←
        if ← sees [.blockEntry, .blockEnd] then pure absent
        else node fuel true false
      pure (item :: (← blockItems fuel))
    else failure

/-- Builds the items of a sequence of dashes that stand below a key. -/
def indentlessItems : (fuel : Nat) → Build (List (Node Scalar))
  | 0 => failure
  | fuel + 1 => do
    if ← takes .blockEntry then
      let item ←
        if ← sees [.blockEntry, .key, .value, .blockEnd] then pure absent
        else node fuel true false
      pure (item :: (← indentlessItems fuel))
    else pure []

/-- Builds the entries of a block mapping. -/
def blockEntries : (fuel : Nat) → Build (List (Node Scalar × Node Scalar))
  | 0 => failure
  | fuel + 1 => do
    if ← takes .blockEnd then pure []
    else if ← takes .key then
      let key ←
        if ← sees [.key, .value, .blockEnd] then pure absent
        else node fuel true true
      let value ←
        if ← takes .value then
          if ← sees [.key, .value, .blockEnd] then pure absent
          else node fuel true true
        else pure absent
      pure ((key, value) :: (← blockEntries fuel))
    else failure

/-- Builds the items of a flow sequence. An item may be a single entry of a mapping. -/
def flowItems : (fuel : Nat) → (isFirst : Bool) → Build (List (Node Scalar))
  | 0, _ => failure
  | fuel + 1, isFirst => do
    if ← takes .flowSequenceEnd then pure []
    else
      let separated ← if isFirst then pure true else takes .flowEntry
      if !separated then failure
      else if ← takes .flowSequenceEnd then pure []
      else if ← takes .key then
        let key ←
          if ← sees [.value, .flowEntry, .flowSequenceEnd] then
            skip
            pure absent
          else node fuel false false
        let value ←
          if ← takes .value then
            if ← sees [.flowEntry, .flowSequenceEnd] then pure absent
            else node fuel false false
          else pure absent
        pure (.mapping [(key, value)] :: (← flowItems fuel false))
      else
        let item ← node fuel false false
        pure (item :: (← flowItems fuel false))

/-- Builds the entries of a flow mapping. -/
def flowEntries : (fuel : Nat) → (isFirst : Bool) → Build (List (Node Scalar × Node Scalar))
  | 0, _ => failure
  | fuel + 1, isFirst => do
    if ← takes .flowMappingEnd then pure []
    else
      let separated ← if isFirst then pure true else takes .flowEntry
      if !separated then failure
      else if ← takes .flowMappingEnd then pure []
      else if ← takes .key then
        let key ←
          if ← sees [.value, .flowEntry, .flowMappingEnd] then pure absent
          else node fuel false false
        let value ←
          if ← takes .value then
            if ← sees [.flowEntry, .flowMappingEnd] then pure absent
            else node fuel false false
          else pure absent
        pure ((key, value) :: (← flowEntries fuel false))
      else
        let key ← node fuel false false
        pure ((key, absent) :: (← flowEntries fuel false))

end

/-! ## Documents -/

/-- Takes the directives before a document. A version may be given once, and so may the
meaning of each handle. -/
def directives : (fuel : Nat) → (hasVersion : Bool) → Build Unit
  | 0, _ => failure
  | fuel + 1, hasVersion => do
    match ← peek with
    | some (.version major minor) => do
      if hasVersion || major != 1 || (minor != 1 && minor != 2) then failure
      skip
      directives fuel true
    | some (.tagHandle handle expansion) => do
      let building ← get
      if (building.handles.lookup handle).isSome then failure
      set { building with handles := building.handles ++ [(handle, expansion)] }
      skip
      directives fuel hasVersion
    | _ => pure ()

/-- The handles that need no directive. -/
def usualHandles : List (Text × Text) :=
  [(['!'], ['!']), (['!', '!'], "tag:yaml.org,2002:".toList)]

/-- Drops the marks after a document. -/
def skipEnds : (fuel : Nat) → Build Unit
  | 0 => pure ()
  | fuel + 1 => do
    if ← takes .documentEnd then skipEnds fuel

/-- Whether the next word cannot be part of a document. -/
def seesOutside : Build Bool := do
  match ← peek with
  | none | some .documentStart | some .documentEnd | some (.version _ _)
  | some (.tagHandle _ _) => pure true
  | _ => pure false

/-- Builds the only document of a text. -/
def document : Build (Node Scalar) := do
  let fuel := 3 * (← get).tokens.length + 8
  let isBare := !(← seesOutside) || (← peek) = some .documentEnd
  let isEmpty := (← peek).isNone
  directives fuel false
  modify fun building => { building with handles := building.handles ++ usualHandles }
  let isMarked ← takes .documentStart
  if !isBare && !isEmpty && !isMarked then failure
  let root ←
    if !isBare && (← seesOutside) then pure absent
    else node fuel true false
  skipEnds fuel
  if !(← peek).isNone then failure
  pure root

end Build

/-- A document, with what its aliases stand for. -/
structure Document where
  root : Node Scalar
  /-- The numbers of anchors with the places of their nodes, latest first. -/
  places : List (Nat × Nat)
  /-- The nodes with anchors, by place. -/
  nodes : List (Nat × Node Scalar)

namespace Document

/-- The node an alias stands for. Any other node stands for itself. -/
def resolve (document : Document) (node : Node Scalar) : Node Scalar :=
  match node with
  | .scalar (.alias number) =>
    ((document.places.lookup number).bind fun place => document.nodes.lookup place).getD node
  | _ => node

end Document

/-- The document a text stands for. -/
def parse? (text : Text) : Option Document :=
  match Token.ofText? text with
  | none => none
  | some tokens =>
    (Build.document ⟨tokens, [], [], [], []⟩).map fun (root, building) =>
      ⟨root, building.places, building.nodes⟩

end Transcript.Yaml
