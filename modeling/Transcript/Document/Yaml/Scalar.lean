import Transcript.Document.Yaml.Cursor

/-! # Scalars of YAML

Scalars are written plain, in either quotes, or as a block of lines that is kept as it
stands or folded.
-/

namespace Transcript.Yaml

/-- How a scalar is written. -/
inductive Style where
  | plain
  | singleQuoted
  | doubleQuoted
  | literal
  | folded
  deriving DecidableEq

/-! ## Plain scalars -/

/-- Whether a character is a bracket or a comma. -/
def isFlowMark (c : Char) : Bool :=
  c = ',' || c = '[' || c = ']' || c = '{' || c = '}'

/-- Splits off a run of characters of a plain scalar without gaps. A colon ends it before
a gap, and in a flow collection a bracket or a comma does; there a colon before one of
these or a question mark is an error. -/
def plainRun? (inFlow : Bool) : Text → Option (Text × Text)
  | [] => some ([], [])
  | c :: rest =>
    if isGap c then some ([], c :: rest)
    else if c = ':' && inFlow && rest.head?.any (fun d => isFlowMark d || d = '?') then none
    else if (c = ':' && endsOr isGap rest) || (inFlow && isFlowMark c) then some ([], c :: rest)
    else (plainRun? inFlow rest).map fun (run, rest) => (c :: run, rest)

/-- Reads a plain scalar after the gap before its next run. `margin` is the column its
lines have to reach outside a flow collection. Tells also whether a line was broken
after the last run. -/
def plainFrom (inFlow : Bool) (margin : Nat) : (fuel : Nat) → Gap → Read (Text × Bool)
  | 0, gap => pure ([], gap.breaks.isSome)
  | fuel + 1, gap => do
    let rest ← Read.rest
    if ((← Read.column) = 0 && isDocumentMark rest) || rest.head? = some '#' then
      return ([], gap.breaks.isSome)
    let (run, _) ← (plainRun? inFlow rest : Option (Text × Text))
    Read.skip run.length
    let before := if run.isEmpty then [] else gap.fold ++ run
    let gap := if run.isEmpty then gap else ⟨[], none⟩
    let rest ← Read.rest
    if endsOr (!isGap ·) rest then
      return (before, gap.breaks.isSome)
    let gap ← Gap.read margin (rest.length + 1) gap
    if !inFlow && (← Read.column) < margin then
      return (before, gap.breaks.isSome)
    let (after, broken) ← plainFrom inFlow margin fuel gap
    pure (before ++ after, broken)

/-- Reads a plain scalar. -/
def plain (inFlow : Bool) (margin : Nat) : Read (Text × Bool) := do
  plainFrom inFlow margin ((← Read.rest).length + 1) ⟨[], none⟩

/-! ## Quoted scalars -/

/-- The character that a letter stands for after a backslash. -/
def escaped? : Char → Option Char
  | '0' => some '\x00'
  | 'a' => some '\x07'
  | 'b' => some '\x08'
  | 't' | '\t' => some '\t'
  | 'n' => some '\n'
  | 'v' => some '\x0b'
  | 'f' => some '\x0c'
  | 'r' => some '\r'
  | 'e' => some '\x1b'
  | ' ' => some ' '
  | '"' => some '"'
  | '/' => some '/'
  | '\\' => some '\\'
  | 'N' => some '\u0085'
  | '_' => some '\u00a0'
  | 'L' => some '\u2028'
  | 'P' => some '\u2029'
  | _ => none

/-- How many digits follow a letter after a backslash. -/
def escapeDigits : Char → Nat
  | 'x' => 2
  | 'u' => 4
  | 'U' => 8
  | _ => 0

/-- Takes what follows a backslash and stands for a character. -/
def escape : Read Char := do
  match ← Read.rest with
  | [] => failure
  | letter :: rest =>
    match escaped? letter with
    | some c => do
      Read.skip 1
      pure c
    | none =>
      let count := escapeDigits letter
      let digits := rest.take count
      let code ← (Text.numeral? 16 digits : Option Nat)
      if digits.length < count || (0xD800 ≤ code && code ≤ 0xDFFF) || 0x10FFFF < code then
        failure
      Read.skip (count + 1)
      pure (Char.ofNat code)

/-- What ends a run of characters in a quoted scalar. -/
inductive RunEnd where
  | quote
  | gap
  /-- A line break that a backslash hides. -/
  | hiddenBreak

/-- Reads a run of characters of a quoted scalar without gaps. -/
def quotedRun (isDouble : Bool) : (fuel : Nat) → Read (Text × RunEnd)
  | 0 => failure
  | fuel + 1 => do
    match ← Read.rest with
    | [] => pure ([], .gap)
    | c :: rest =>
      if isGap c then pure ([], .gap)
      else if isDouble then
        if c = '"' then pure ([], .quote)
        else if c = '\\' then
          Read.skip 1
          if rest.head?.any isBreak then
            let _ ← Read.takeBreak
            pure ([], .hiddenBreak)
          else
            let c ← escape
            let (run, stop) ← quotedRun isDouble fuel
            pure (c :: run, stop)
        else
          Read.skip 1
          let (run, stop) ← quotedRun isDouble fuel
          pure (c :: run, stop)
      else if c = '\'' then
        if rest.head? = some '\'' then
          Read.skip 2
          let (run, stop) ← quotedRun isDouble fuel
          pure (c :: run, stop)
        else pure ([], .quote)
      else
        Read.skip 1
        let (run, stop) ← quotedRun isDouble fuel
        pure (c :: run, stop)

/-- Reads a quoted scalar after its opening quote, with the closing one. -/
def quotedFrom (isDouble : Bool) : (fuel : Nat) → Read Text
  | 0 => failure
  | fuel + 1 => do
    let rest ← Read.rest
    if rest.isEmpty || ((← Read.column) = 0 && isDocumentMark rest) then failure
    let (run, stop) ← quotedRun isDouble (rest.length + 1)
    match stop with
    | .quote => do
      Read.skip 1
      pure run
    | .gap => do
      let gap ← Gap.read 0 ((← Read.rest).length + 1) ⟨[], none⟩
      pure (run ++ gap.fold ++ (← quotedFrom isDouble fuel))
    | .hiddenBreak => do
      let gap ← Gap.read 0 ((← Read.rest).length + 1) ⟨[], some ([], [])⟩
      pure (run ++ gap.fold ++ (← quotedFrom isDouble fuel))

/-- Reads a quoted scalar. -/
def quoted (isDouble : Bool) : Read Text := do
  Read.skip 1
  quotedFrom isDouble ((← Read.rest).length + 1)

/-! ## Blocks -/

/-- What happens to the line breaks at the end of a block. -/
inductive Chomping where
  | clip
  | strip
  | keep
  deriving DecidableEq

/-- Takes a chomping indicator if there is one. -/
def chomping : Read (Option Chomping) := do
  match ← Read.peek with
  | some '+' => do Read.skip 1; pure (some .keep)
  | some '-' => do Read.skip 1; pure (some .strip)
  | _ => pure none

/-- Takes an indentation indicator if there is one. -/
def indentation : Read (Option Nat) := do
  match ← Read.peek with
  | some c =>
    if c = '0' then failure
    else if Text.isDigit c then do Read.skip 1; pure (some (Text.digitValue c))
    else pure none
  | none => pure none

/-- Takes the indicators of a block, in either order. -/
def blockIndicators : Read (Chomping × Option Nat) := do
  match ← chomping with
  | some chomping => pure (chomping, ← indentation)
  | none => do
    let indent ← indentation
    let chomping ← if indent.isSome then chomping else pure none
    pure (chomping.getD .clip, indent)

/-- Takes empty lines and the indentation of the line after them, which is `indent`
columns or, if that is not known yet, all its spaces. Gives the breaks and the greatest
number of spaces. -/
def blockBreaks (indent : Option Nat) : (fuel : Nat) → (widest : Nat) → Read (Text × Nat)
  | 0, widest => pure ([], widest)
  | fuel + 1, widest => do
    let spaces := ((← Read.rest).takeWhile (· = ' ')).length
    let column ← Read.column
    Read.skip (match indent with
      | none => spaces
      | some indent => min spaces (indent - column))
    let column ← Read.column
    let widest := max widest column
    match ← Read.peek with
    | some c =>
      if c = '\t' && indent.all (column < ·) then failure
      else if isBreak c then
        let this ← Read.takeBreak
        let (later, widest) ← blockBreaks indent fuel widest
        pure (this ++ later, widest)
      else pure ([], widest)
    | none => pure ([], widest)

/-- Reads the lines of a block. `isFolded` joins lines, `wasBlank` says that the line
before begins with a blank, and `first` and `later` are the break of that line and those
of the empty lines after it. Gives the text and the breaks at its end. -/
def blockLines (isFolded : Bool) (indent : Nat) :
    (fuel : Nat) → (wasBlank : Bool) → (first later : Text) → Read (Text × Text × Text)
  | 0, _, first, later => pure ([], first, later)
  | fuel + 1, wasBlank, first, later => do
    match ← Read.peek with
    | none => pure ([], first, later)
    | some c =>
      if (← Read.column) != indent then pure ([], first, later)
      else
        let isBlankNow := isBlank c
        let joint :=
          if isFolded && first = ['\n'] && !wasBlank && !isBlankNow then
            if later.isEmpty then [' '] else later
          else first ++ later
        let content ← Read.takeWhile fun _ => true
        let first ← Read.takeBreak
        let (later, _) ← blockBreaks (some indent) ((← Read.rest).length + 1) 0
        let (text, first, later) ← blockLines isFolded indent fuel isBlankNow first later
        pure (joint ++ content ++ text, first, later)

/-- Reads a block scalar. `margin` is the column its lines have to reach. -/
def block (isFolded : Bool) (margin : Nat) : Read Text := do
  Read.skip 1
  let (chomping, increment) ← blockIndicators
  Read.endOfLine
  let fuel := (← Read.rest).length + 1
  let given := increment.map (margin - 1 + ·)
  let (later, widest) ← blockBreaks given fuel 0
  let indent := given.getD (max widest (max margin 1))
  let (text, first, later) ← blockLines isFolded indent fuel false [] later
  pure (text ++ (if chomping = .strip then [] else first)
    ++ (if chomping = .keep then later else []))

end Transcript.Yaml
