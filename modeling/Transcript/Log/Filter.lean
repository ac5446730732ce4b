import Transcript.Log.Event
import Transcript.Text.Alphanumeric
import Transcript.Text.Number
import Transcript.Text.Space
import Transcript.Text.Utf8

/-! # Log filters

A filter is a list of directives with commas between them, such as
`warn,store::disk=trace`. A directive lets the events of a target through up to a level.
It may ask for a span or for fields in brackets, as in `store[disk{size}]=debug`. Of the
directives that concern an event the most specific one decides.
-/

namespace Transcript.Log

/-- The levels up to which events are let through, none of them or all up to one. -/
abbrev Limit := Option Level

namespace Limit

/-- Reads a limit: a number from zero to five, or the name of a level in any case. The
empty word stands for errors alone. -/
def ofText? (text : Text) : Option Limit :=
  let word := text.map Char.toUpper
  match Text.size? text with
  | some 0 => some none
  | some number => (Level.all.find? (·.rank = number)).map some
  | none =>
    if word.isEmpty then some (some .error)
    else if word = "OFF".toList then some none
    else (Level.all.find? (·.name = word)).map some

/-- The limit that lets everything through. -/
def everything : Limit := some .trace

/-- Whether an event of this level is let through. -/
def admits (limit : Limit) (level : Level) : Bool := limit.any (level.rank ≤ ·.rank)

end Limit

/-- A directive of a filter. -/
structure Directive where
  limit : Limit
  /-- How the target of an event has to begin. -/
  target : Option Text
  /-- The span an event has to be in. -/
  span : Option Text
  /-- The fields an event has to have, each with the value it has to match. -/
  fields : List (Text × Option Text)

namespace Directive

/-! ## Reading -/

/-- What is being read. The numbers tell where it began. -/
inductive State where
  | start
  | limitOrTarget (start : Nat)
  | span (start : Nat)
  | field (start : Nat)
  | fields
  | target
  | limit (start : Nat)

/-- The part of a piece between two byte positions. -/
def part? (piece : Bytes) (start stop : Nat) : Option Text :=
  Text.ofUtf8? ((piece.take stop).drop start)

/-- Whether a directive may begin with a character, a bracket apart. -/
def isInitial (c : Char) : Bool :=
  c = '-' || c = ':' || c = '_' || Text.isAlphanumeric c

/-- Reads a field, with the value it has to match after an equality sign. -/
def field? (text : Text) : Option (Text × Option Text) :=
  if text.isEmpty then none
  else
    let name := text.takeWhile (· != '=')
    match text.dropWhile (· != '=') with
    | [] => some (name, none)
    | _ :: value => some (name, some (value.takeWhile (· != '=')))

/-- Reads the character at a position. -/
def step? (piece : Bytes) (position : Nat) (directive : Directive) (c : Char) :
    State → Option (State × Directive)
  | .start =>
    if c = '[' then some (.span (position + 1), directive)
    else if isInitial c then some (.limitOrTarget position, directive)
    else none
  | .limitOrTarget start =>
    if c = '=' || c = '[' then
      (part? piece start position).map fun target =>
        (if c = '=' then .limit (position + 1) else .span (position + 1),
          { directive with target := some target })
    else some (.limitOrTarget start, directive)
  | .span start =>
    if c = ']' then
      (part? piece start position).map fun name => (.target, { directive with span := some name })
    else if c = '\x7b' then
      (part? piece start position).map fun name =>
        (.field (position + 1),
          { directive with span := if name.isEmpty then none else some name })
    else some (.span start, directive)
  | .field start =>
    if c = '\x7d' then
      ((part? piece start position).bind field?).map fun field =>
        (.fields, { directive with fields := directive.fields ++ [field] })
    else some (.field start, directive)
  | .fields => if c = ']' then some (.target, directive) else none
  | .target => if c = '=' then some (.limit (position + 1), directive) else none
  | .limit start => some (.limit start, directive)

/-- Reads what is left when the piece has come to its end. -/
def finish? (piece : Bytes) (directive : Directive) : State → Option Directive
  | .limitOrTarget start =>
    (part? piece start piece.length).map fun text =>
      if text.isEmpty then directive
      else match Limit.ofText? text with
        | some limit => { directive with limit, target := none }
        | none => { directive with target := some text }
  | .limit start =>
    (part? piece start piece.length).bind fun text =>
      if text.isEmpty then some directive
      else (Limit.ofText? text).map fun limit => { directive with limit }
  | .target => some directive
  | _ => none

/-- Reads the characters from a position on. -/
def scan? (piece : Bytes) : (position : Nat) → State → Directive → Text → Option Directive
  | _, state, directive, [] => finish? piece directive state
  | position, state, directive, c :: rest =>
    match step? piece position directive c state with
    | none => none
    | some (state, directive) =>
      scan? piece (position + (Text.utf8 [c]).length) state directive rest

/-- Reads a directive. Positions are counted without the white space at the beginning,
but the parts are taken from the whole piece, so that such space shifts them. -/
def ofText? (piece : Text) : Option Directive :=
  scan? piece.utf8 0 .start ⟨Limit.everything, none, none, []⟩ piece.trim

/-! ## Deciding -/

/-- Whether a directive can be decided from an event alone, without the spans around it
and the values of its fields. -/
def isStatic (directive : Directive) : Bool :=
  directive.span.isNone && directive.fields.all (·.2.isNone)

/-- Whether a directive concerns an event. -/
def concerns (directive : Directive) (event : Event) : Bool :=
  directive.isStatic && directive.target.all (·.isPrefixOf event.target)
    && directive.fields.all (event.fieldNames.elem ·.1)

/-- The length of the target, one more than its bytes if there is one. -/
def targetWeight (directive : Directive) : Nat :=
  match directive.target with
  | none => 0
  | some target => target.utf8.length + 1

/-- Whether a name comes before another one in the order of code points. -/
def precedes (name other : Text) : Bool := List.lex name other fun c d => decide (c < d)

/-- Whether a directive is at most as specific as another one that concerns the same
event: first the length of the target counts, then the number of fields, then their
names. -/
def isBelow (directive other : Directive) : Bool :=
  directive.targetWeight < other.targetWeight
    || directive.targetWeight = other.targetWeight
      && (directive.fields.length < other.fields.length
        || directive.fields.length = other.fields.length
          && !List.lex (other.fields.map (·.1)) (directive.fields.map (·.1)) precedes)

end Directive

/-- A filter. -/
structure Filter where
  directives : List Directive

namespace Filter

/-- Reads a filter. Empty pieces are passed over. -/
def ofText? (text : Text) : Option Filter :=
  (((Text.piecesAt ',' text).filter (!·.isEmpty)).mapM Directive.ofText?).map Filter.mk

/-- The most specific directive that concerns an event, the last one if there are
several. -/
def governing? (filter : Filter) (event : Event) : Option Directive :=
  (filter.directives.filter (·.concerns event)).foldl (fun best directive =>
    match best with
    | none => some directive
    | some other => if other.isBelow directive then some directive else some other) none

/-- Whether a filter lets an event through. -/
def admits (filter : Filter) (event : Event) : Bool :=
  (filter.governing? event).any (·.limit.admits event.level)

end Filter

end Transcript.Log
