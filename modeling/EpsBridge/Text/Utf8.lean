import EpsBridge.Number.Decimal

/-!
# Decoding UTF-8

Engines, file headers and paths deliver bytes that are meant to be UTF-8 and
need not be.  `Utf8.decode` reads them all the same: every maximal beginning of
a well-formed sequence that is not continued becomes one U+FFFD, and so does
every byte that can begin no sequence.

The decoder is a fold over the bytes.  Its state is the text so far and what
the open sequence still expects, so delivering the same bytes in other pieces
cannot change the text.

Where nothing may be replaced, bytes that are not UTF-8 throughout give an error
instead, which tells where the first sequence stands that is broken or left open.
-/

namespace EpsBridge.Utf8

/-- The character that stands for bytes that are not UTF-8. -/
def replacement : Char := Char.ofNat 0xFFFD

/-- An open sequence: `remaining` more bytes are due, the next one within
`low` and `high`, and `code` holds the bits collected so far. -/
structure Pending where
  remaining : Nat
  low : UInt8
  high : UInt8
  code : Nat
deriving DecidableEq, Repr

/-- The text decoded so far and the sequence that is open at its end. -/
structure Decoder where
  text : String
  pending : Option Pending
deriving DecidableEq, Repr

namespace Decoder

/-- Nothing read yet. -/
def start : Decoder := ⟨"", none⟩

/-- Reads a byte outside any open sequence. -/
def lead (text : String) (byte : UInt8) : Decoder :=
  let code := byte.toNat
  if code < 0x80 then ⟨text.push (Char.ofNat code), none⟩
  else if code < 0xC2 then ⟨text.push replacement, none⟩
  else if code < 0xE0 then ⟨text, some ⟨1, 0x80, 0xBF, code % 0x20⟩⟩
  else if code = 0xE0 then ⟨text, some ⟨2, 0xA0, 0xBF, 0⟩⟩
  else if code = 0xED then ⟨text, some ⟨2, 0x80, 0x9F, 0xD⟩⟩
  else if code < 0xF0 then ⟨text, some ⟨2, 0x80, 0xBF, code % 0x10⟩⟩
  else if code = 0xF0 then ⟨text, some ⟨3, 0x90, 0xBF, 0⟩⟩
  else if code < 0xF4 then ⟨text, some ⟨3, 0x80, 0xBF, code % 0x08⟩⟩
  else if code = 0xF4 then ⟨text, some ⟨3, 0x80, 0x8F, 4⟩⟩
  else ⟨text.push replacement, none⟩

/-- Reads one byte.  A byte that does not continue the open sequence closes it
with a replacement and is then read for itself. -/
def step (decoder : Decoder) (byte : UInt8) : Decoder :=
  match decoder.pending with
  | none => lead decoder.text byte
  | some pending =>
    if pending.low ≤ byte && byte ≤ pending.high then
      let code := pending.code * 0x40 + byte.toNat % 0x40
      if pending.remaining ≤ 1 then ⟨decoder.text.push (Char.ofNat code), none⟩
      else ⟨decoder.text, some ⟨pending.remaining - 1, 0x80, 0xBF, code⟩⟩
    else lead (decoder.text.push replacement) byte

/-- The text once no byte follows: an open sequence becomes a replacement. -/
def finish (decoder : Decoder) : String :=
  match decoder.pending with
  | none => decoder.text
  | some _ => decoder.text.push replacement

end Decoder

/-- The text of a list of bytes. -/
def decode (bytes : List UInt8) : String :=
  (bytes.foldl Decoder.step Decoder.start).finish

/-- The text of an array of bytes. -/
def decodeArray (bytes : ByteArray) : String :=
  (bytes.foldl Decoder.step Decoder.start).finish

/-- The text of bytes that are UTF-8 throughout, and nothing otherwise. -/
def decodeExactly? (bytes : List UInt8) : Option String :=
  String.fromUTF8? bytes.toByteArray

/-! ## Errors -/

/-- What is wrong with bytes that are not UTF-8 throughout. -/
structure DecodeError where
  /-- How many bytes stand in front of the sequence at fault. -/
  validLength : Nat
  /-- The bytes of that sequence, unless the bytes end within it. -/
  brokenLength : Option Nat
deriving DecidableEq, Repr

namespace DecodeError

def message (error : DecodeError) : String :=
  match error.brokenLength with
  | some length =>
    "invalid utf-8 sequence of " ++ Decimal.ofNat length ++ " bytes from index " ++
      Decimal.ofNat error.validLength
  | none => "incomplete utf-8 byte sequence from index " ++ Decimal.ofNat error.validLength

/-- The error in bytes, behind some that are UTF-8 and some of an open sequence. -/
def scan (valid opened : Nat) (pending : Option Pending) : List UInt8 → DecodeError
  | [] => ⟨valid, none⟩
  | byte :: rest =>
    let next := (Decoder.step ⟨"", pending⟩ byte).pending
    match pending with
    | none =>
      if next.isSome then scan valid 1 next rest
      else if byte < 0x80 then scan (valid + 1) 0 none rest
      else ⟨valid, some 1⟩
    | some pending =>
      if pending.low ≤ byte && byte ≤ pending.high then
        if next.isSome then scan valid (opened + 1) next rest
        else scan (valid + opened + 1) 0 none rest
      else ⟨valid, some opened⟩

/-- The error in bytes that are not UTF-8 throughout. -/
def ofBytes (bytes : List UInt8) : DecodeError := scan 0 0 none bytes

end DecodeError

/-! ## Characters and bytes -/

/-- The character that bytes begin with, and the number of its bytes. -/
def leading? (bytes : List UInt8) : Option (Char × Nat) :=
  [1, 2, 3, 4].findSome? fun length =>
    match (decodeExactly? (bytes.take length)).map String.toList with
    | some [c] => some (c, length)
    | _ => none

/-- The bytes of a text. -/
def encode (text : String) : List UInt8 :=
  text.toUTF8.toList

end EpsBridge.Utf8
