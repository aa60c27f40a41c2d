import EpsBridge.Eps.Metadata
import EpsBridge.Eps.Source
import EpsBridge.Error
import EpsBridge.FileStore.Calls

/-!
# Inspecting EPS files

A plain EPS file begins with its version line.  A file with a binary header
begins with four fixed bytes and says, in two words, where its PostScript
section starts and how long it is; the rest of the file does not matter.
-/

namespace EpsBridge.Eps

/-- The beginning of a plain file: `%!PS`. -/
def plainMagic : List UInt8 := [0x25, 0x21, 0x50, 0x53]

/-- The beginning of a file with a binary header. -/
def binaryMagic : List UInt8 := [0xC5, 0xD0, 0xD3, 0xC6]

/-- The length of the binary header. -/
def binaryHeaderLength : Nat := 30

/-- The bytes of a file that an error shows. -/
def shownMagicLength : Nat := 8

/-- Whether bytes begin like a file with a binary header. -/
def isBinary (bytes : List UInt8) : Bool := binaryMagic.isPrefixOf bytes

/-- Whether bytes begin like an EPS file of either form. -/
def isEps (bytes : List UInt8) : Bool := plainMagic.isPrefixOf bytes || isBinary bytes

/-- The number of four bytes, the lowest first. -/
def word? (bytes : List UInt8) (position : Nat) : Option Nat :=
  match (bytes.drop position).take 4 with
  | [a, b, c, d] =>
    some (a.toNat + 0x100 * b.toNat + 0x10000 * c.toNat + 0x1000000 * d.toNat)
  | _ => none

/-- Where the PostScript section starts behind a binary header, and its length. -/
def section? (header : List UInt8) : Option (Nat × Nat) := do
  let start ← word? header 4
  let length ← word? header 8
  if binaryHeaderLength ≤ start && 0 < length then some (start, length) else none

/-- The PostScript text of a file, or nothing where the file is not EPS. -/
def body? (content : ByteArray) : Option (List UInt8) :=
  let magic := (content.extract 0 binaryHeaderLength).toList
  if isBinary magic then
    (section? magic).map fun (start, length) => (content.extract start (start + length)).toList
  else if isEps magic then some content.toList
  else none

/-- The number of pages that a header gives, or one. -/
def pageCount (header : Header) : UInt32 :=
  match header.pages with
  | some pages => if 0 < pages then pages else 1
  | none => 1

/-- The metadata of a file with a header. -/
def metadataOf (path : Path) (content : ByteArray) (modified : Int) (header : Header) :
    Metadata where
  fileName := Utf8.decode (path.fileName?.getD [])
  fileSize := content.size
  modifiedAt := if modified < 0 then none else some modified.toNat
  binary := isBinary (content.extract 0 binaryHeaderLength).toList
  pageCount := pageCount header
  width := header.effectiveBox.map BoundingBox.width
  height := header.effectiveBox.map BoundingBox.height
  header := header

/-- The metadata of the content of a file. -/
def ofContent (path : Path) (content : ByteArray) (modified : Int) : Except Error Metadata :=
  match body? content with
  | none => .error (.notAnEps path (content.extract 0 shownMagicLength).toList)
  | some body =>
    match Header.read (Reader.ofBytes bufferSize body) with
    | .ok header => .ok (metadataOf path content modified header)
    | .error error => .error (.readFailed path error)

/-- The metadata of what opening a file gave. -/
def ofOpened (path : Path) : Except FileError FileStore.Opened → Except Error Metadata
  | .error .noEntry => .error (.fileNotFound path)
  | .error error => .error (.readFailed path error)
  | .ok .directory => .error (.readFailed path .isDirectory)
  | .ok (.file content modified) => ofContent path content modified

end EpsBridge.Eps
