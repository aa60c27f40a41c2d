import EpsBridge.FileError

/-!
# File stores

A file store is a tree of directories, given by what lies at each location.  A
path leads to a location step by step, starting at the root or at a working
directory: every step has to be made from a directory that exists, and the last
one may lead to nothing.

Errors are those that a system reports: a step from nothing, a step from
something that is not a directory, a name or a path that is too long, a path
with a zero byte.
-/

namespace EpsBridge

/-- The names on the way from the root, innermost first.  The root has none. -/
abbrev Location := List (List UInt8)

/-- What lies at a location. -/
inductive FileNode where
  | directory
  /-- A file and the second of its last change, counted from the beginning of
  1970. -/
  | file (content : ByteArray) (modified : Int)
  /-- An image of a library, with the entry points that it offers. -/
  | library (symbols : List String) (modified : Int)

/-- What lies where.  The root is a directory, whether or not it is listed. -/
structure FileStore where
  entries : List (Location × FileNode)
deriving Inhabited

namespace FileStore

/-- Nothing but the root. -/
def empty : FileStore := ⟨[]⟩

/-- What lies at a location. -/
def node? (store : FileStore) (place : Location) : Option FileNode :=
  if place = [] then some .directory else store.entries.lookup place

/-- Removes what lies at a location. -/
def erase (store : FileStore) (place : Location) : FileStore :=
  ⟨store.entries.filter fun entry => entry.1 ≠ place⟩

/-- Puts something at a location, in place of what lay there. -/
def insert (store : FileStore) (place : Location) (node : FileNode) : FileStore :=
  ⟨(place, node) :: (store.erase place).entries⟩

/-! ## Walking -/

/-- The longest name that a directory stores. -/
def nameLimit : Nat := 255

/-- The length from which on a path is refused. -/
def pathLimit : Nat := 4096

/-- The segment that stays where it is. -/
def hereSegment : List UInt8 := [Path.dot]

/-- The segment that leads to the enclosing directory. -/
def upSegment : List UInt8 := [Path.dot, Path.dot]

/-- Where a segment leads from a location. -/
def step (store : FileStore) (place : Location) (segment : List UInt8) :
    Except FileError Location :=
  match store.node? place with
  | none => .error .noEntry
  | some .directory =>
    if segment = hereSegment then .ok place
    else if segment = upSegment then .ok place.tail
    else if nameLimit < segment.length then .error .nameTooLong
    else .ok (segment :: place)
  | some _ => .error .notDirectory

/-- Where segments lead from a location. -/
def walk (store : FileStore) (place : Location) (segments : List (List UInt8)) :
    Except FileError Location :=
  segments.foldlM (store.step) place

/-- The segments of a path that are not empty. -/
def segments (path : Path) : List (List UInt8) :=
  (Path.segmentsOf path.bytes).filter (fun segment => !segment.isEmpty)

/-- Where the segments of a path start. -/
def origin (here : Location) (path : Path) : Location :=
  if path.isAbsolute then [] else here

/-- Whether a path ends in a slash. -/
def hasTrailingSlash (path : Path) : Bool :=
  path.bytes.getLast? = some Path.slash

/-- Refuses the paths that no call accepts. -/
def checkPath (path : Path) : Except FileError Unit :=
  if path.hasNul then .error .unexpectedNul
  else if path.bytes.isEmpty then .error .noEntry
  else if pathLimit ≤ path.bytes.length then .error .nameTooLong
  else .ok ()

/-- The location of what lies at the end of a path.  A trailing slash asks for a
directory. -/
def locate (store : FileStore) (here : Location) (path : Path) :
    Except FileError (Location × FileNode) := do
  checkPath path
  let more := if hasTrailingSlash path then [hereSegment] else []
  let place ← store.walk (origin here path) (segments path ++ more)
  match store.node? place with
  | some node => .ok (place, node)
  | none => .error .noEntry

/-- The last step of a path along which something is to be created. -/
inductive LastStep where
  /-- A name in a directory, and whether a slash follows it. -/
  | named (directory : Location) (name : List UInt8) (slash : Bool)
  /-- The root, or a dot or two. -/
  | unnamed
deriving DecidableEq, Repr

/-- The last step of a path.  All steps in front of it have to lead to
directories. -/
def lastStep (store : FileStore) (here : Location) (path : Path) :
    Except FileError LastStep := do
  checkPath path
  let all := segments path
  let directory ← store.walk (origin here path) all.dropLast
  match store.node? directory with
  | none => .error .noEntry
  | some .directory =>
    match all.getLast? with
    | none => .ok .unnamed
    | some name =>
      if name = hereSegment || name = upSegment then .ok .unnamed
      else if nameLimit < name.length then .error .nameTooLong
      else .ok (.named directory name (hasTrailingSlash path))
  | some _ => .error .notDirectory

end FileStore

end EpsBridge
