import Transcript.Document.Basic

/-! # Documents in brackets

Documents in which square brackets hold sequences and braces hold mappings. The tokens
are read one by one, with the collections still open on a stack.
-/

namespace Transcript.Brackets

variable {σ : Type}

/-- The words of a document in brackets. -/
inductive Token (σ : Type) where
  | openList
  | closeList
  | openMap
  | closeMap
  | comma
  | colon
  | scalar (value : σ)

/-- What is left open by the format. -/
structure Grammar (σ : Type) where
  /-- Whether a comma may stand before a closing bracket. -/
  trailingComma : Bool
  /-- Which scalars may be keys. -/
  isKey : σ → Bool
  /-- Which scalars may be values. -/
  isValue : σ → Bool

/-- A collection that is open, with what it holds so far, newest first. -/
inductive Frame (σ : Type) where
  | list (items : List (Node σ))
  | map (entries : List (Node σ × Node σ))
  /-- A mapping whose next value belongs to `key`. -/
  | entry (entries : List (Node σ × Node σ)) (key : Node σ)

/-- What may come next, with the open collections, innermost first. -/
inductive State (σ : Type) where
  /-- A value, or the end of the innermost list if `closable`. -/
  | value (closable : Bool) (stack : List (Frame σ))
  /-- A key, or the end of the mapping if `closable`. -/
  | key (closable : Bool) (entries : List (Node σ × Node σ)) (stack : List (Frame σ))
  /-- The colon after a key. -/
  | colon (key : Node σ) (entries : List (Node σ × Node σ)) (stack : List (Frame σ))
  /-- A comma, or the end of the innermost collection. -/
  | separator (stack : List (Frame σ))
  /-- Nothing. -/
  | complete (root : Node σ)

namespace State

/-- Puts a node that is finished where it belongs. -/
def put (node : Node σ) : List (Frame σ) → State σ
  | [] => .complete node
  | .list items :: stack => .separator (.list (node :: items) :: stack)
  | .map entries :: stack => .separator (.map entries :: stack)
  | .entry entries name :: stack => .separator (.map ((name, node) :: entries) :: stack)

/-- Reads one token. -/
def step (grammar : Grammar σ) : State σ → Token σ → Option (State σ)
  | .value _ stack, .scalar s =>
    if grammar.isValue s then some (put (.scalar s) stack) else none
  | .value _ stack, .openList => some (.value true (.list [] :: stack))
  | .value _ stack, .openMap => some (.key true [] stack)
  | .value true (.list items :: stack), .closeList => some (put (.sequence items.reverse) stack)
  | .key _ entries stack, .scalar s =>
    if grammar.isKey s then some (.colon (.scalar s) entries stack) else none
  | .key true entries stack, .closeMap => some (put (.mapping entries.reverse) stack)
  | .colon name entries stack, .colon => some (.value false (.entry entries name :: stack))
  | .separator (.list items :: stack), .comma =>
    some (.value grammar.trailingComma (.list items :: stack))
  | .separator (.list items :: stack), .closeList => some (put (.sequence items.reverse) stack)
  | .separator (.map entries :: stack), .comma =>
    some (.key grammar.trailingComma entries stack)
  | .separator (.map entries :: stack), .closeMap =>
    some (put (.mapping entries.reverse) stack)
  | _, _ => none

end State

/-- The document a sequence of tokens stands for. -/
def parse? (grammar : Grammar σ) (tokens : List (Token σ)) : Option (Node σ) :=
  match tokens.foldlM (State.step grammar) (.value false []) with
  | some (.complete root) => some root
  | _ => none

/-! ## Lexing -/

/-- The token of a punctuation mark. -/
def punctuation? : Char → Option (Token σ)
  | '[' => some .openList
  | ']' => some .closeList
  | '{' => some .openMap
  | '}' => some .closeMap
  | ',' => some .comma
  | ':' => some .colon
  | _ => none

/-- Reads tokens up to the end of a text. `skip?` drops what stands at the front of a
text and is no token, if there is anything, and `scalar?` reads a scalar; both give the
rest of the text. Every step takes a character, so that the length of the text bounds
the number of steps. -/
def tokensWithin (skip? : Text → Option Text) (scalar? : Text → Option (σ × Text)) :
    (steps : Nat) → Text → Option (List (Token σ))
  | _, [] => some []
  | 0, _ :: _ => none
  | steps + 1, c :: rest =>
    match skip? (c :: rest) with
    | some rest => tokensWithin skip? scalar? steps rest
    | none =>
      match punctuation? c with
      | some token => (tokensWithin skip? scalar? steps rest).map (token :: ·)
      | none =>
        match scalar? (c :: rest) with
        | some (value, rest) =>
          (tokensWithin skip? scalar? steps rest).map (.scalar value :: ·)
        | none => none

/-- The tokens of a text. -/
def tokens? (skip? : Text → Option Text) (scalar? : Text → Option (σ × Text)) (text : Text) :
    Option (List (Token σ)) :=
  tokensWithin skip? scalar? text.length text

end Transcript.Brackets
