import EpsBridge.Json.Record
import EpsBridge.Text.DecimalDigit
import EpsBridge.Text.Pattern

/-!
# Bounding boxes

A box in PostScript points, its origin at the lower left, and its two written
forms: a comment line, and a record.  A text is searched for a comment line by a
pattern: the marker at the beginning of a line, then four numbers between blanks
and tabs, and nothing after them but blanks, tabs and one carriage return.  The
numbers that were found are read afterwards, and the search goes on where they
are no 32-bit integers.
-/

namespace EpsBridge

/-- A rectangle given by its lower left and upper right corners. -/
structure BoundingBox where
  llx : Int32
  lly : Int32
  urx : Int32
  ury : Int32
deriving DecidableEq, Repr, Inhabited

namespace BoundingBox

/-- The width, clamped to 32 bits. -/
def width (box : BoundingBox) : Int32 :=
  Decimal.clampInt32 (box.urx.toInt - box.llx.toInt)

/-- The height, clamped to 32 bits. -/
def height (box : BoundingBox) : Int32 :=
  Decimal.clampInt32 (box.ury.toInt - box.lly.toInt)

/-- Whether the box encloses nothing. -/
def isEmpty (box : BoundingBox) : Bool :=
  box.width ≤ 0 || box.height ≤ 0

/-- The corners in their usual order. -/
def toList (box : BoundingBox) : List Int32 :=
  [box.llx, box.lly, box.urx, box.ury]

/-- The box of four corners. -/
def ofList? : List Int32 → Option BoundingBox
  | [llx, lly, urx, ury] => some ⟨llx, lly, urx, ury⟩
  | _ => none

/-! ## The comment line -/

/-- What a box line begins with. -/
def marker : String := "%%BoundingBox:"

/-- The corners with single blanks between them. -/
def corners (box : BoundingBox) : String :=
  String.intercalate " " (box.toList.map Decimal.ofInt32)

/-- The box as a comment line. -/
def line (box : BoundingBox) : String :=
  marker ++ " " ++ box.corners

/-- Whether a character may stand between the numbers of a line. -/
def isGap (c : Char) : Bool :=
  c = ' ' || c = '\t'

/-- A number with an optional minus sign, in the digits of a class. -/
def numberPattern (isDigit : Char → Bool) : Text.Pattern :=
  .all [.optional (· = '-'), .atLeastOne isDigit]

/-- A box line with the digits of a class:
`(?m)^%%BoundingBox:[ \t]*(-?\d+)[ \t]+(-?\d+)[ \t]+(-?\d+)[ \t]+(-?\d+)[ \t]*\r?$`. -/
def linePattern (isDigit : Char → Bool) : Text.Pattern :=
  .all [.lineStart, .literal marker.toList, .many isGap,
    .group (numberPattern isDigit), .atLeastOne isGap,
    .group (numberPattern isDigit), .atLeastOne isGap,
    .group (numberPattern isDigit), .atLeastOne isGap,
    .group (numberPattern isDigit), .many isGap, .optional (· = '\r'), .lineEnd]

/-- The box of the numbers that were found, if they are 32-bit integers. -/
def ofNumbers? (numbers : List (List Char)) : Option BoundingBox :=
  (numbers.mapM Decimal.readInt32?).bind ofList?

/-- The box of the first match that gives one. -/
def ofOutput? (text : String) : Option BoundingBox :=
  (linePattern Text.isDecimalDigit).findMap? ofNumbers? none 0 text.toList

/-! ## The record -/

/-- The box as a record. -/
def toJson (box : BoundingBox) : Json :=
  .object [("llx", .integer box.llx.toInt), ("lly", .integer box.lly.toInt),
    ("urx", .integer box.urx.toInt), ("ury", .integer box.ury.toInt)]

/-- Reads a record. -/
def ofJson? (value : Json) : Option BoundingBox := do
  let fields ← value.fields? ["llx", "lly", "urx", "ury"]
  ofList? (← fields.mapM (Json.required? Json.int32?))

end BoundingBox

end EpsBridge
