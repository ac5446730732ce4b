import Transcript.Text.Basic

/-! # Documents

What the document formats have in common: scalars arranged in sequences and mappings.
-/

namespace Transcript

/-- A part of a document over the scalars of a format. The entries of a mapping stand in
the order of the document, and a key may occur more than once. -/
inductive Node (σ : Type) where
  | scalar (value : σ)
  | sequence (items : List (Node σ))
  | mapping (entries : List (Node σ × Node σ))

namespace Node

variable {σ : Type}

mutual

/-- Whether every scalar of the node satisfies `p`, keys included. -/
def all (p : σ → Bool) : Node σ → Bool
  | .scalar value => p value
  | .sequence items => allItems p items
  | .mapping entries => allEntries p entries

/-- Whether every scalar of the items satisfies `p`. -/
def allItems (p : σ → Bool) : List (Node σ) → Bool
  | [] => true
  | item :: rest => all p item && allItems p rest

/-- Whether every scalar of the entries satisfies `p`. -/
def allEntries (p : σ → Bool) : List (Node σ × Node σ) → Bool
  | [] => true
  | (key, value) :: rest => all p key && all p value && allEntries p rest

end

end Node

end Transcript
