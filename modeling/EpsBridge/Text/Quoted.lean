import EpsBridge.Json.Writer
import EpsBridge.Text.GraphemeExtend
import EpsBridge.Text.Unprintable
import EpsBridge.Text.Utf8

/-!
# Quoted text in messages

Messages quote text so that every character shows: controls by short names,
what has no visible form of its own by its code, and bytes that are not UTF-8
by their value.  Between double quotes a single quote stays as it is.
-/

namespace EpsBridge.Quoted

/-- The hexadecimal digits of a number, in lower case and without leading
zeros. -/
def hexadecimal (value : Nat) : String :=
  String.ofList (Nat.toDigits 16 value)

/-- The visible form of a character between quotes. -/
def character (c : Char) : String :=
  if c = '\x00' then "\\0"
  else if c = '\t' then "\\t"
  else if c = '\r' then "\\r"
  else if c = '\n' then "\\n"
  else if c = '\\' then "\\\\"
  else if c = '"' then "\\\""
  else if Text.isGraphemeExtend c || Text.isUnprintable c then
    "\\u\x7b" ++ hexadecimal c.toNat ++ "\x7d"
  else c.toString

/-- A text in double quotes. -/
def text (value : String) : String :=
  (value.foldl (fun shown c => shown ++ character c) "\"").push '"'

/-- The visible form of a byte that is not part of UTF-8. -/
def strayByte (byte : UInt8) : String :=
  "\\x" ++ (String.ofList [Json.hexDigit (byte.toNat / 16),
    Json.hexDigit (byte.toNat % 16)]).toUpper

/-- Shows bytes behind what is shown already, after passing over `skip` of
them. -/
def bytesAfter (shown : String) : Nat → List UInt8 → String
  | _, [] => shown
  | skip + 1, _ :: rest => bytesAfter shown skip rest
  | 0, byte :: rest =>
    match Utf8.leading? (byte :: rest) with
    | some (c, length) => bytesAfter (shown ++ character c) (length - 1) rest
    | none => bytesAfter (shown ++ strayByte byte) 0 rest

/-- The bytes of a file name in double quotes. -/
def name (bytes : List UInt8) : String :=
  (bytesAfter "\"" 0 bytes).push '"'

end EpsBridge.Quoted
