import EpsBridge.Json.Record
import EpsBridge.Text.Quoted
import EpsBridge.Text.Utf8

/-!
# Paths

A path is a string of bytes, separated by slashes, and keeps its exact text.
Its components forget what does not matter to where it leads: repeated and
trailing slashes, and single dots except at the beginning.  Names of files, stems
and parents are read off the components.
-/

namespace EpsBridge

/-- A path as it was written. -/
structure Path where
  bytes : List UInt8
deriving DecidableEq, Repr, Inhabited

namespace Path

/-- The byte between components. -/
def slash : UInt8 := 0x2F

/-- The byte in front of an extension. -/
def dot : UInt8 := 0x2E

/-- The path of a text. -/
def ofString (text : String) : Path := ⟨Utf8.encode text⟩

/-- The path for messages, with replacements where it is not UTF-8. -/
def display (path : Path) : String := Utf8.decode path.bytes

/-- The text of a path that is UTF-8 throughout. -/
def text? (path : Path) : Option String := Utf8.decodeExactly? path.bytes

/-- The path in double quotes, every byte visible. -/
def quoted (path : Path) : String := Quoted.name path.bytes

/-- Whether a path starts at the root. -/
def isAbsolute (path : Path) : Bool := path.bytes.head? = some slash

/-- Whether a path holds a zero byte, which no system call accepts. -/
def hasNul (path : Path) : Bool := path.bytes.contains 0

/-! ## Components -/

/-- A step of a path. -/
inductive Component where
  | root
  /-- A dot at the beginning of a relative path. -/
  | here
  | up
  | name (bytes : List UInt8)
deriving DecidableEq, Repr

/-- Puts a byte in front of the first segment. -/
def extendFirst (byte : UInt8) : List (List UInt8) → List (List UInt8)
  | [] => [[byte]]
  | segment :: segments => (byte :: segment) :: segments

/-- The texts between slashes, empty ones included. -/
def segmentsOf (bytes : List UInt8) : List (List UInt8) :=
  bytes.foldr (fun byte rest => if byte = slash then [] :: rest else extendFirst byte rest) [[]]

/-- The step that a segment stands for; none for an empty one or a dot. -/
def step? (segment : List UInt8) : Option Component :=
  if segment = [] || segment = [dot] then none
  else if segment = [dot, dot] then some .up
  else some (.name segment)

/-- The steps of a path. -/
def components (path : Path) : List Component :=
  let segments := segmentsOf path.bytes
  let first : List Component :=
    if path.isAbsolute then [.root] else if segments.head? = some [dot] then [.here] else []
  first ++ segments.filterMap step?

/-- Whether two paths have the same steps. -/
def leadsLike (path other : Path) : Bool := path.components = other.components

/-- The name at the end of a path. -/
def fileName? (path : Path) : Option (List UInt8) :=
  match path.components.getLast? with
  | some (.name bytes) => some bytes
  | _ => none

/-! ## Stems and extensions -/

/-- Splits a name at its last dot, unless that is its first byte.  Without such
a dot, all of it is the stem. -/
def splitName (name : List UInt8) : List UInt8 × Option (List UInt8) :=
  let reversed := name.reverse
  let extension := (reversed.takeWhile (· ≠ dot)).reverse
  match (reversed.dropWhile (· ≠ dot)).drop 1 with
  | [] => (name, none)
  | stem => (stem.reverse, some extension)

/-- The last name of a path without its extension. -/
def fileStem? (path : Path) : Option (List UInt8) :=
  path.fileName?.map fun name => (splitName name).1

/-- The extension of the last name of a path. -/
def extension? (path : Path) : Option (List UInt8) :=
  path.fileName?.bind fun name => (splitName name).2

/-! ## Parents

Both functions take the bytes of a path last byte first. -/

/-- Drops trailing segments that are no step. -/
def dropIdle (reversed : List UInt8) : List UInt8 :=
  match reversed with
  | [] => []
  | byte :: rest =>
    if byte = slash then dropIdle rest
    else if byte = dot then
      match rest with
      | [] => []
      | next :: _ => if next = slash then dropIdle rest else byte :: rest
    else byte :: rest

/-- Drops the last step with the slash in front of it. -/
def dropStep (reversed : List UInt8) : List UInt8 :=
  (reversed.dropWhile (· ≠ slash)).drop 1

/-- The path without its last step; the root and the empty path have none. -/
def parent? (path : Path) : Option Path :=
  match path.components.getLast? with
  | none => none
  | some .root => none
  | some .here => some ⟨[]⟩
  | some _ =>
    let kept := if path.isAbsolute || path.components.head? = some .here then 1 else 0
    let body := path.bytes.drop kept
    some ⟨path.bytes.take kept ++ (dropIdle (dropStep (dropIdle body.reverse))).reverse⟩

/-! ## Building paths -/

/-- The path that leads on from `path`, or `next` itself if that starts at the
root. -/
def join (path next : Path) : Path :=
  if next.isAbsolute then next
  else if path.bytes = [] || path.bytes.getLast? = some slash then ⟨path.bytes ++ next.bytes⟩
  else ⟨path.bytes ++ slash :: next.bytes⟩

/-- What stands in front of the end of the last name's stem, the stem
included. -/
def uptoStem? (path : Path) : Option (List UInt8) :=
  path.fileName?.map fun name =>
    let tail := dropIdle path.bytes.reverse
    (tail.drop (name.length - (splitName name).1.length)).reverse

/-- Gives the last name an extension in place of the one it has. -/
def setExtension (path : Path) (extension : String) : Path :=
  match path.uptoStem? with
  | none => path
  | some start => ⟨start ++ dot :: Utf8.encode extension⟩

/-- The path with another extension.  As many bytes as the old extension has are
first cut from the end; a name that is then only dots and leads upwards takes no
extension. -/
def withExtension (path : Path) (extension : String) : Path :=
  let old := (path.extension?.map List.length).getD 0
  setExtension ⟨path.bytes.take (path.bytes.length - old)⟩ extension

/-! ## Records -/

/-- The path as a record, if it is UTF-8. -/
def toJson? (path : Path) : Option Json := path.text?.map .string

/-- Reads a record. -/
def ofJson? (value : Json) : Option Path := value.string?.map ofString

end Path

end EpsBridge
