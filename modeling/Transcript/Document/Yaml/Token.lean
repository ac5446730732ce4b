import Transcript.Document.Yaml.Scalar
import Transcript.Text.Utf8

/-! # Words of YAML

The text is divided into words, and the indentation is turned into words too: a block
sequence or mapping begins at a word of its own and ends at another one. A word in front
of a colon is known to be a key only when the colon is reached, so that the word that
announces a key is put in afterwards, where the key began. Such a key has to stand on one
line, within 1024 characters of its colon.
-/

namespace Transcript.Yaml

/-- The words of a YAML text. -/
inductive Token where
  | version (major minor : Nat)
  | tagHandle (handle expansion : Text)
  | documentStart
  | documentEnd
  | blockSequence
  | blockMapping
  | blockEnd
  | flowSequence
  | flowSequenceEnd
  | flowMapping
  | flowMappingEnd
  | flowEntry
  | blockEntry
  | key
  | value
  | alias (name : Text)
  | anchor (name : Text)
  | tag (handle suffix : Text)
  | scalar (style : Style) (content : Text)
  deriving DecidableEq

/-! ## Names and tags -/

/-- Takes the name of an anchor or alias after its mark. -/
def anchorName : Read Text := do
  Read.skip 1
  let name ← Read.takeWhile isNameChar
  let ends := endsOr (fun c => isGap c || c = '?' || c = ':' || c = ',' || c = ']' || c = '}'
    || c = '%' || c = '@' || c = '\x60') (← Read.rest)
  if name.isEmpty || !ends then failure
  pure name

/-- Whether a character may stand in a tag as it is. -/
def isTagChar (isVerbatim : Bool) (c : Char) : Bool :=
  isNameChar c || c = ';' || c = '/' || c = '?' || c = ':' || c = '@' || c = '&' || c = '='
    || c = '+' || c = '$' || c = '.' || c = '!' || c = '~' || c = '*' || c = '\'' || c = '('
    || c = ')' || (isVerbatim && (c = ',' || c = '[' || c = ']'))

/-- How many bytes a character has in UTF-8 that begins with the given one. -/
def utf8Width (lead : Nat) : Nat :=
  if lead < 0x80 then 1
  else if lead < 0xC0 then 0
  else if lead < 0xE0 then 2
  else if lead < 0xF0 then 3
  else if lead < 0xF8 then 4
  else 0

/-- Takes a byte written with a percent sign. -/
def octet : Read Nat := do
  match ← Read.rest with
  | '%' :: a :: b :: _ => do
    let octet ← (Text.numeral? 16 [a, b] : Option Nat)
    Read.skip 3
    pure octet
  | _ => failure

/-- Takes so many bytes that continue a character. -/
def laterOctets : Nat → Read Bytes
  | 0 => pure []
  | count + 1 => do
    let octet ← octet
    if octet / 0x40 != 2 then failure
    pure (octet.toUInt8 :: (← laterOctets count))

/-- Takes a character whose bytes are written with percent signs. -/
def octets : Read Text := do
  let lead ← octet
  if utf8Width lead = 0 then failure
  let later ← laterOctets (utf8Width lead - 1)
  pure (Text.ofUtf8Lenient (lead.toUInt8 :: later))

/-- Takes the characters of a tag. -/
def tagText (isVerbatim : Bool) : (fuel : Nat) → Read Text
  | 0 => pure []
  | fuel + 1 => do
    match ← Read.peek with
    | none => pure []
    | some '%' => do
      let first ← octets
      pure (first ++ (← tagText isVerbatim fuel))
    | some c =>
      if isTagChar isVerbatim c then
        Read.skip 1
        pure (c :: (← tagText isVerbatim fuel))
      else pure []

/-- Takes the characters of a tag, at least one. -/
def tagTextSome (isVerbatim : Bool) : Read Text := do
  let text ← tagText isVerbatim ((← Read.rest).length + 1)
  if text.isEmpty then failure
  pure text

/-- Takes an exclamation mark, a name, and another exclamation mark if there is one. -/
def tagHandle : Read Text := do
  if (← Read.peek) != some '!' then failure
  Read.skip 1
  let name ← Read.takeWhile isNameChar
  if (← Read.peek) = some '!' then
    Read.skip 1
    pure ('!' :: name ++ ['!'])
  else pure ('!' :: name)

/-- Whether a handle is one that a directive can explain by itself. -/
def isNamedHandle (handle : Text) : Bool := 2 ≤ handle.length && handle.getLast? = some '!'

/-- Takes a tag. An exclamation mark alone has no handle. -/
def tag (inFlow : Bool) : Read Token := do
  let token ← match ← Read.rest with
    | '!' :: '<' :: _ => do
      Read.skip 2
      let suffix ← tagTextSome true
      if (← Read.peek) != some '>' then failure
      Read.skip 1
      pure (Token.tag [] suffix)
    | _ => do
      let handle ← tagHandle
      if isNamedHandle handle then
        pure (Token.tag handle (← tagTextSome false))
      else
        let text ← tagText false ((← Read.rest).length + 1)
        match handle.drop 1 ++ text with
        | [] => pure (Token.tag [] ['!'])
        | suffix => pure (Token.tag ['!'] suffix)
  let rest ← Read.rest
  if !endsOr isGap rest && !(inFlow && rest.head? = some ',') then failure
  pure token

/-! ## Directives -/

/-- Takes a number of at most nine digits. -/
def versionNumber : Read Nat := do
  let digits ← Read.takeWhile Text.isDigit
  if digits.isEmpty || 9 < digits.length then failure
  pure (Text.digitsValue 10 digits)

/-- Takes a directive and the rest of its line. Only the version and the handles of tags
can be directed. -/
def directive : Read Token := do
  Read.skip 1
  let name ← Read.takeWhile isNameChar
  if name.isEmpty || !endsOr isGap (← Read.rest) then failure
  let _ ← Read.takeWhile isBlank
  let token ←
    if name = "YAML".toList then do
      let major ← versionNumber
      if (← Read.peek) != some '.' then failure
      Read.skip 1
      pure (Token.version major (← versionNumber))
    else if name = "TAG".toList then do
      let handle ← tagHandle
      if handle != ['!'] && !isNamedHandle handle then failure
      let blanks ← Read.takeWhile isBlank
      if blanks.isEmpty then failure
      let expansion ← tagTextSome true
      if !endsOr isGap (← Read.rest) then failure
      pure (Token.tagHandle handle expansion)
    else failure
  Read.endOfLine
  pure token

/-! ## Dividing a text -/

/-- A place where a key may have begun. -/
structure KeyMark where
  /-- Whether only a key can stand there. -/
  isRequired : Bool
  /-- The number of words before. -/
  number : Nat
  index : Nat
  line : Nat
  column : Nat

/-- A text that is partly divided. -/
structure Division where
  cursor : Cursor
  /-- The words so far. -/
  tokens : Array Token
  /-- The flow collections that are open, innermost first, and the block around them,
  each with the place where a key may have begun in it. -/
  keys : List (Option KeyMark)
  /-- The column of the innermost block collection, if there is one. -/
  indent : Int
  /-- The columns of the block collections around it. -/
  outer : List Int
  /-- Whether a key may begin here. -/
  keyAllowed : Bool

/-- A step in dividing a text. -/
abbrev Divide := StateT Division Option

namespace Divide

/-- Reads at the cursor. -/
def read {α : Type} (scan : Read α) : Divide α := do
  let division ← get
  match scan division.cursor with
  | some (value, cursor) => do
    set { division with cursor := cursor }
    pure value
  | none => failure

/-- Whether a flow collection is open. -/
def inFlow : Divide Bool := do pure (1 < (← get).keys.length)

/-- Adds a word. -/
def add (token : Token) : Divide Unit :=
  modify fun division => { division with tokens := division.tokens.push token }

/-- Says whether a key may begin at the next word. -/
def allowKey (allowed : Bool) : Divide Unit :=
  modify fun division => { division with keyAllowed := allowed }

/-- Fails unless a key may begin here. -/
def needKeyAllowed : Divide Unit := do
  if !(← get).keyAllowed then failure

/-- Gives up the key that may have begun in the innermost collection. -/
def dropKey : Divide Unit := do
  let division ← get
  match division.keys with
  | some mark :: outer =>
    if mark.isRequired then failure
    else set { division with keys := none :: outer }
  | _ => pure ()

/-- Gives up the keys that are not on this line or too far away. -/
def dropStaleKeys : Divide Unit := do
  let division ← get
  let cursor := division.cursor
  let isStale (mark : KeyMark) : Bool :=
    mark.line < cursor.line || mark.index + 1024 < cursor.index
  if division.keys.any (·.any fun mark => isStale mark && mark.isRequired) then failure
  set { division with keys := division.keys.map (Option.filter (!isStale ·)) }

/-- Remembers that a key may begin here. -/
def markKey : Divide Unit := do
  if (← get).keyAllowed then
    dropKey
    let division ← get
    let cursor := division.cursor
    let isRequired := !(← inFlow) && division.indent == cursor.column
    let mark : KeyMark :=
      ⟨isRequired, division.tokens.size, cursor.index, cursor.line, cursor.column⟩
    set { division with keys := some mark :: division.keys.tail }

/-- Begins a block collection at a column right of the innermost one, with a word put in
after `number` others. -/
def beginBlock (column number : Nat) (token : Token) : Divide Unit := do
  if !(← inFlow) then
    let division ← get
    if division.indent < column then
      set { division with
        tokens := division.tokens.insertIdxIfInBounds number token
        indent := column
        outer := division.indent :: division.outer }

/-- Ends the block collections right of a column. -/
def endBlocks (column : Int) : Divide Unit := do
  if !(← inFlow) then
    let division ← get
    let columns := division.indent :: division.outer
    let ended := columns.takeWhile (column < ·)
    let left := columns.dropWhile (column < ·)
    set { division with
      tokens := division.tokens ++ Array.replicate ended.length Token.blockEnd
      indent := left.headD (-1)
      outer := left.tail }

/-- Drops blanks, comments and line breaks up to the next word. At the beginning of a
line a tab counts as a blank only inside a flow collection. -/
def skipToWord : (fuel : Nat) → Divide Unit
  | 0 => failure
  | fuel + 1 => do
    let division ← get
    if division.cursor.index = 0 && division.cursor.rest.head? = some '﻿' then
      read (Read.skip 1)
    let tabs := (← inFlow) || !division.keyAllowed
    let _ ← read (Read.takeWhile fun c => c = ' ' || (tabs && c = '	'))
    if (← read Read.peek) = some '#' then
      let _ ← read (Read.takeWhile fun _ => true)
    if (← read Read.peek).any isBreak then
      let _ ← read Read.takeBreak
      if !(← inFlow) then allowKey true
      skipToWord fuel

/-! ### Words of each kind -/

/-- Leaves all block collections before something that stands outside documents. -/
def leaveBlocks : Divide Unit := do
  endBlocks (-1)
  dropKey
  allowKey false

/-- A mark that begins a flow collection. -/
def beginFlow (token : Token) : Divide Unit := do
  markKey
  modify fun division => { division with keys := none :: division.keys }
  allowKey true
  read (Read.skip 1)
  add token

/-- A mark that ends a flow collection. -/
def endFlow (token : Token) : Divide Unit := do
  dropKey
  if ← inFlow then
    modify fun division => { division with keys := division.keys.tail }
  allowKey false
  read (Read.skip 1)
  add token

/-- A comma between the entries of a flow collection. -/
def flowEntry : Divide Unit := do
  dropKey
  allowKey true
  read (Read.skip 1)
  add .flowEntry

/-- A mark before something that stands in a block collection of its own, which begins
here if need be. -/
def beginBlockHere (token : Token) : Divide Unit := do
  if !(← inFlow) then
    needKeyAllowed
    let division ← get
    beginBlock division.cursor.column division.tokens.size token

/-- A dash before an entry of a block sequence. -/
def blockEntry : Divide Unit := do
  beginBlockHere .blockSequence
  dropKey
  allowKey true
  read (Read.skip 1)
  add .blockEntry

/-- A question mark before a key. -/
def explicitKey : Divide Unit := do
  beginBlockHere .blockMapping
  dropKey
  allowKey (!(← inFlow))
  read (Read.skip 1)
  add .key

/-- A colon before a value. What may have been a key is one. -/
def value : Divide Unit := do
  let division ← get
  match division.keys with
  | some mark :: outer => do
    set { division with
      tokens := division.tokens.insertIdxIfInBounds mark.number .key
      keys := none :: outer }
    beginBlock mark.column mark.number .blockMapping
    allowKey false
  | _ => do
    beginBlockHere .blockMapping
    allowKey (!(← inFlow))
  read (Read.skip 1)
  add .value

/-- An anchor, an alias, a tag or a quoted scalar: a word that may be a key. -/
def keyWord (scan : Read Token) : Divide Unit := do
  markKey
  allowKey false
  add (← read scan)

/-- A block scalar. -/
def blockScalar (isFolded : Bool) : Divide Unit := do
  dropKey
  allowKey true
  let margin := ((← get).indent + 1).toNat
  let content ← read (block isFolded margin)
  add (.scalar (if isFolded then .folded else .literal) content)

/-- A plain scalar. A key may begin after one that breaks its line at the end. -/
def plainScalar : Divide Unit := do
  markKey
  allowKey false
  let margin := ((← get).indent + 1).toNat
  let (content, broken) ← read (plain (← inFlow) margin)
  if broken then allowKey true
  add (.scalar .plain content)

/-- Whether a plain scalar may begin with the next characters. -/
def beginsPlain (inFlow : Bool) : Text → Bool
  | [] => false
  | c :: rest =>
    if isGap c then false
    else if c = '-' then !rest.head?.any isBlank
    else if c = '?' || c = ':' then !inFlow && !endsOr isGap rest
    else !(isFlowMark c || c = '#' || c = '&' || c = '*' || c = '!' || c = '|' || c = '>'
      || c = '\'' || c = '"' || c = '%' || c = '@' || c = '\x60')

/-- Takes the next word, or tells that there is none. -/
def word : Divide Bool := do
  skipToWord ((← get).cursor.rest.length + 1)
  dropStaleKeys
  endBlocks (← get).cursor.column
  let cursor := (← get).cursor
  let flow ← inFlow
  match cursor.rest with
  | [] => do
    leaveBlocks
    pure false
  | c :: rest => do
    let beforeGap := endsOr isGap rest
    if cursor.column = 0 && c = '%' then
      leaveBlocks
      add (← read directive)
    else if cursor.column = 0 && isDocumentMark cursor.rest then
      leaveBlocks
      read (Read.skip 3)
      add (if c = '-' then .documentStart else .documentEnd)
    else if c = '[' then beginFlow .flowSequence
    else if c = '{' then beginFlow .flowMapping
    else if c = ']' then endFlow .flowSequenceEnd
    else if c = '}' then endFlow .flowMappingEnd
    else if c = ',' then flowEntry
    else if c = '-' && beforeGap then blockEntry
    else if c = '?' && (flow || beforeGap) then explicitKey
    else if c = ':' && (flow || beforeGap) then value
    else if c = '*' then keyWord (Token.alias <$> anchorName)
    else if c = '&' then keyWord (Token.anchor <$> anchorName)
    else if c = '!' then keyWord (tag flow)
    else if c = '|' && !flow then blockScalar false
    else if c = '>' && !flow then blockScalar true
    else if c = '\'' then keyWord (Token.scalar .singleQuoted <$> quoted false)
    else if c = '"' then keyWord (Token.scalar .doubleQuoted <$> quoted true)
    else if beginsPlain flow cursor.rest then plainScalar
    else failure
    pure true

/-- Takes all words. -/
def words : (fuel : Nat) → Divide Unit
  | 0 => failure
  | fuel + 1 => do
    if ← word then words fuel

end Divide

namespace Token

/-- The words of a text. -/
def ofText? (text : Text) : Option (List Token) :=
  if text.all isAllowed then
    (Divide.words (text.length + 1) ⟨⟨text, 0, 0, 0⟩, #[], [none], -1, [], true⟩).map
      fun (_, division) => division.tokens.toList
  else none

end Token

end Transcript.Yaml
