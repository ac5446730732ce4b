import Transcript.Text.Basic

/-! # UTF-8

Encoding, and two ways of decoding. The decoder reads bytes one at a time and
reports each scalar value and each maximal invalid part: the longest run of bytes
that begins a sequence and cannot be completed, or one byte that begins none.
Decoding is strict when an invalid part is refused, and lenient when each of them
becomes one U+FFFD.
-/

namespace Transcript.Text

/-- The bytes of a text. -/
def utf8 (text : Text) : Bytes := text.flatMap String.utf8EncodeChar

namespace Utf8

/-- A sequence that has begun: how many bytes follow the next one, the bounds of the
next one, and the value of the bits read. -/
structure Partial where
  following : Nat
  low : Nat
  high : Nat
  value : Nat

/-- A decoder between two bytes: an open sequence, and what was read before it,
newest first, with `none` for an invalid part. -/
structure Decoder where
  open? : Option Partial
  read : List (Option Char)

namespace Decoder

/-- Reads a byte with no sequence open. -/
def start (byte : Nat) (read : List (Option Char)) : Decoder :=
  let open_ (following low high value : Nat) : Decoder := ⟨some ⟨following, low, high, value⟩, read⟩
  if byte < 0x80 then ⟨none, some (Char.ofNat byte) :: read⟩
  else if byte < 0xC2 then ⟨none, none :: read⟩
  else if byte < 0xE0 then open_ 0 0x80 0xBF (byte - 0xC0)
  else if byte = 0xE0 then open_ 1 0xA0 0xBF 0
  else if byte = 0xED then open_ 1 0x80 0x9F 0xD
  else if byte < 0xF0 then open_ 1 0x80 0xBF (byte - 0xE0)
  else if byte = 0xF0 then open_ 2 0x90 0xBF 0
  else if byte < 0xF4 then open_ 2 0x80 0xBF (byte - 0xF0)
  else if byte = 0xF4 then open_ 2 0x80 0x8F 4
  else ⟨none, none :: read⟩

/-- Reads one byte. A byte that does not continue the open sequence ends it as an
invalid part and is read anew. -/
def step (decoder : Decoder) (byte : UInt8) : Decoder :=
  match decoder.open? with
  | none => start byte.toNat decoder.read
  | some ⟨following, low, high, value⟩ =>
    if low ≤ byte.toNat && byte.toNat ≤ high then
      let value := value * 0x40 + (byte.toNat - 0x80)
      match following with
      | 0 => ⟨none, some (Char.ofNat value) :: decoder.read⟩
      | following + 1 => ⟨some ⟨following, 0x80, 0xBF, value⟩, decoder.read⟩
    else start byte.toNat (none :: decoder.read)

/-- What was read, in order. A sequence still open is an invalid part. -/
def finish (decoder : Decoder) : List (Option Char) :=
  match decoder.open? with
  | none => decoder.read.reverse
  | some _ => (none :: decoder.read).reverse

end Decoder

/-- The scalar values of a byte sequence, with `none` for each invalid part. -/
def decode (bytes : Bytes) : List (Option Char) :=
  (bytes.foldl Decoder.step ⟨none, []⟩).finish

end Utf8

/-- The text a byte sequence encodes, if every part of it is valid. -/
def ofUtf8? (bytes : Bytes) : Option Text := (Utf8.decode bytes).mapM id

/-- The text a byte sequence encodes, with U+FFFD for each invalid part. -/
def ofUtf8Lenient (bytes : Bytes) : Text := (Utf8.decode bytes).map (·.getD '\uFFFD')

end Transcript.Text
