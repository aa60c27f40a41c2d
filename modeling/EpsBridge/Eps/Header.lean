import EpsBridge.BoundingBox
import EpsBridge.Number.Binary64
import EpsBridge.Text.Blank

/-!
# Headers of EPS files

An EPS file begins with comment lines.  A header is what the first lines say:
which version of the language the file declares, and the values of seven
comments.

For each comment the first line that gives a value wins.  Text comments always
give one; a number or a box is given only by a line whose value reads as one, so
a value put off to the end of the file leaves the field unset.
-/

namespace EpsBridge.Eps

/-- The comments that a header keeps. -/
inductive Key where
  | title
  | creator
  | creationDate
  | pages
  | languageLevel
  | hiresBoundingBox
  | boundingBox
deriving DecidableEq, Repr

namespace Key

/-- What a line with a comment begins with. -/
def marker : Key → String
  | title => "%%Title:"
  | creator => "%%Creator:"
  | creationDate => "%%CreationDate:"
  | pages => "%%Pages:"
  | languageLevel => "%%LanguageLevel:"
  | hiresBoundingBox => "%%HiResBoundingBox:"
  | boundingBox => BoundingBox.marker

/-- All keys.  No marker is the beginning of another. -/
def all : List Key :=
  [title, creator, creationDate, pages, languageLevel, hiresBoundingBox, boundingBox]

end Key

/-- A comment line: its key and its trimmed value. -/
structure Comment where
  key : Key
  value : List Char
deriving DecidableEq, Repr

namespace Comment

/-- Reads a line as a comment with one of the keys. -/
def ofLine? (line : List Char) : Option Comment :=
  Key.all.findSome? fun key =>
    (Text.after? key.marker.toList line).map fun value => ⟨key, Text.trim value⟩

end Comment

/-- The value without the pair of parentheses that encloses it. -/
def unquote (value : List Char) : List Char :=
  match value with
  | '(' :: rest => if rest.getLast? = some ')' then rest.dropLast else value
  | _ => value

/-- Reads the first token of a value as a natural number. -/
def firstNumber? (value : List Char) : Option UInt32 :=
  (Text.tokens value).head?.bind Decimal.readUInt32?

/-- Reads the first four tokens of a value as the corners of a box. -/
def readBox? (readCorner? : List Char → Option Int32) (value : List Char) : Option BoundingBox :=
  (((Text.tokens value).take 4).mapM readCorner?).bind BoundingBox.ofList?

/-- What the comments at the beginning of a file say. -/
structure Header where
  /-- The line that declares the language. -/
  versionLine : Option String
  title : Option String
  creator : Option String
  creationDate : Option String
  pages : Option UInt32
  languageLevel : Option UInt32
  boundingBox : Option BoundingBox
  /-- Fractional bounds, truncated toward zero. -/
  hiresBoundingBox : Option BoundingBox
deriving DecidableEq, Repr, Inhabited

namespace Header

/-- Nothing is said. -/
def empty : Header := ⟨none, none, none, none, none, none, none, none⟩

/-- What a line begins with that declares the language. -/
def versionMarker : String := "%!PS"

/-- What the line begins with that ends the comments. -/
def stopMarker : String := "%%EndComments"

/-- What a version line holds that declares an encapsulated file. -/
def epsfMarker : String := "EPSF-"

/-- Whether a line ends the comments. -/
def isStop (line : List Char) : Bool :=
  (Text.after? stopMarker.toList line).isSome

/-- Takes note of a comment.  A field that is set stays as it is. -/
def note (header : Header) (comment : Comment) : Header :=
  let value := comment.value
  match comment.key with
  | .title => { header with title := header.title <|> some (String.ofList (unquote value)) }
  | .creator => { header with creator := header.creator <|> some (String.ofList value) }
  | .creationDate =>
    { header with creationDate := header.creationDate <|> some (String.ofList (unquote value)) }
  | .pages => { header with pages := header.pages <|> firstNumber? value }
  | .languageLevel =>
    { header with languageLevel := header.languageLevel <|> firstNumber? value }
  | .hiresBoundingBox =>
    { header with
      hiresBoundingBox := header.hiresBoundingBox <|> readBox? Binary64.readTruncated? value }
  | .boundingBox =>
    { header with boundingBox := header.boundingBox <|> readBox? Decimal.readInt32? value }

/-- Takes note of a line, if it is a comment with one of the keys. -/
def noteLine (header : Header) (line : List Char) : Header :=
  match Comment.ofLine? line with
  | some comment => header.note comment
  | none => header

/-- The header that some lines make.  The first of them may declare the
language. -/
def ofLines : List (List Char) → Header
  | [] => empty
  | first :: rest =>
    if (Text.after? versionMarker.toList first).isSome then
      rest.foldl noteLine { empty with versionLine := some (String.ofList first) }
    else (first :: rest).foldl noteLine empty

/-- The box that a file claims, its whole-numbered one before the other. -/
def effectiveBox (header : Header) : Option BoundingBox :=
  header.boundingBox <|> header.hiresBoundingBox

/-- Whether the version line declares an encapsulated file. -/
def isEpsf (header : Header) : Bool :=
  match header.versionLine with
  | some line => Text.contains epsfMarker.toList line.toList
  | none => false

/-! ## Records -/

/-- The header as a record. -/
def toJson (header : Header) : Json :=
  let text := Json.ofOption Json.string
  let number := Json.ofOption fun (value : UInt32) => Json.ofNat value.toNat
  let box := Json.ofOption BoundingBox.toJson
  .object [("version_line", text header.versionLine), ("title", text header.title),
    ("creator", text header.creator), ("creation_date", text header.creationDate),
    ("pages", number header.pages), ("language_level", number header.languageLevel),
    ("bounding_box", box header.boundingBox), ("hires_bounding_box", box header.hiresBoundingBox)]

/-- Reads a record. -/
def ofJson? (value : Json) : Option Header := do
  match ← value.fields? ["version_line", "title", "creator", "creation_date", "pages",
    "language_level", "bounding_box", "hires_bounding_box"] with
  | [version, title, creator, date, pages, level, box, hires] =>
    return ⟨← Json.optional? Json.string? version, ← Json.optional? Json.string? title,
      ← Json.optional? Json.string? creator, ← Json.optional? Json.string? date,
      ← Json.optional? Json.uint32? pages, ← Json.optional? Json.uint32? level,
      ← Json.optional? BoundingBox.ofJson? box, ← Json.optional? BoundingBox.ofJson? hires⟩
  | _ => none

end Header

end EpsBridge.Eps
