/-!
# Blank characters, trimming and tokens

A character is blank when it has the Unicode property `White_Space`.  Values of
header comments are trimmed of blanks and split at them; diagnostics are split
into lines at line feeds alone.
-/

namespace EpsBridge.Text

/-- Whether a character has the property `White_Space`. -/
def isBlank (c : Char) : Bool :=
  let code := c.toNat
  (0x09 ≤ code && code ≤ 0x0D) || code = 0x20 || code = 0x85 || code = 0xA0 ||
    code = 0x1680 || (0x2000 ≤ code && code ≤ 0x200A) || code = 0x2028 ||
    code = 0x2029 || code = 0x202F || code = 0x205F || code = 0x3000

/-- Removes the characters of a class from the end of a text. -/
def trimEnd (drop : Char → Bool) (text : List Char) : List Char :=
  (text.reverse.dropWhile drop).reverse

/-- Removes blanks from both ends of a text. -/
def trim (text : List Char) : List Char :=
  trimEnd isBlank (text.dropWhile isBlank)

/-- Puts a character in front of the first of some pieces. -/
def extendFirst (c : Char) : List (List Char) → List (List Char)
  | [] => [[c]]
  | piece :: pieces => (c :: piece) :: pieces

/-- Splits a text at every character of a class.  There is always one piece
more than there are such characters. -/
def pieces (stop : Char → Bool) (text : List Char) : List (List Char) :=
  text.foldr (fun c rest => if stop c then [] :: rest else extendFirst c rest) [[]]

/-- The maximal runs of characters that are not blank. -/
def tokens (text : List Char) : List (List Char) :=
  (pieces isBlank text).filter (fun piece => !piece.isEmpty)

/-- The lines of a text, split at line feeds. -/
def lines (text : List Char) : List (List Char) :=
  pieces (fun c => c = '\n') text

/-- What follows `key` in a text that begins with it. -/
def after? : List Char → List Char → Option (List Char)
  | [], text => some text
  | _ :: _, [] => none
  | k :: key, c :: text => if k = c then after? key text else none

/-- Whether `part` occurs somewhere in a text. -/
def contains (part : List Char) : List Char → Bool
  | [] => part.isEmpty
  | c :: text => (after? part (c :: text)).isSome || contains part text

end EpsBridge.Text
