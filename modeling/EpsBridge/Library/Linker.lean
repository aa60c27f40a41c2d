import EpsBridge.Library.Loader

/-!
# The dynamic linker

The linker opens shared libraries by name.  A name with a slash is a path.  Any
other name is looked for in the search directories, never in the working
directory unless a search directory is empty.  A library that is in use already
is found under every name by which it was opened, whatever has become of its
file; and a search directory with an absolute path that was missing when it was
needed is not looked at again.
-/

namespace EpsBridge.Linker

/-- A library in memory. -/
structure Image where
  /-- The names by which the library was opened. -/
  names : List (List UInt8)
  /-- The file that it came from. -/
  place : Option Location
  /-- The name in complaints about missing symbols. -/
  shownName : String
  symbols : List String
deriving DecidableEq, Repr

/-- What the linker remembers. -/
structure State where
  searchDirectories : List (List UInt8)
  /-- Search directories that are not looked at again. -/
  missingDirectories : List (List UInt8)
  /-- The libraries in use, in the order in which they were opened. -/
  resident : List Image
deriving Repr, Inhabited

/-- Splits a search path at colons and semicolons, and puts each directory in
the form in which names are added to it: with one slash at its end, or empty. -/
def searchDirectoriesOf (value : List UInt8) : List (List UInt8) :=
  let segments := value.foldr
    (fun byte rest => if byte = 0x3A || byte = 0x3B then [] :: rest else Path.extendFirst byte rest)
    [[]]
  if value.isEmpty then []
  else segments.map fun segment =>
    if segment.isEmpty then []
    else (segment.reverse.dropWhile (· = Path.slash)).reverse ++ [Path.slash]

/-- A linker that has opened nothing. -/
def State.start (searchPath : List UInt8) : State := ⟨searchDirectoriesOf searchPath, [], []⟩

/-- The length of the header that every library has. -/
def headerLength : Nat := 64

/-- Opens the library in a file, under a name that complaints use. -/
def openNode (shownName : String) (names : List (List UInt8)) (place : Location) :
    FileNode → Except String Image
  | .library symbols _ => .ok ⟨names, some place, shownName, symbols⟩
  | .directory => .error (shownName ++ ": cannot read file data: Is a directory")
  | .file content _ =>
    if content.size < headerLength then .error (shownName ++ ": file too short")
    else .error (shownName ++ ": invalid ELF header")

/-- What the linker says of a file that does not open. -/
def cannotOpen (name : String) (error : FileError) : String :=
  let text := match error with
    | .system number => FileError.systemText number
    | other => other.message
  name ++ ": cannot open shared object file: " ++ text

/-- The library in use that was opened by a name. -/
def knownAs? (state : State) (name : List UInt8) : Option Image :=
  state.resident.find? fun image => image.names.contains name

/-- Says whether two images are of one file.  A file that offers something else has
been put in place of the one that is in use. -/
def Image.sameFile (image other : Image) : Bool :=
  image.place = other.place && image.symbols = other.symbols

/-- An image that is known by more names. -/
def Image.alsoKnownAs (image : Image) (names : List (List UInt8)) : Image :=
  { image with names := image.names ++ names }

/-- The image of a file, or the library in use if there is one of the same file,
which is then known by one more name. -/
def share (state : State) (image : Image) : Image × State :=
  match state.resident.find? image.sameFile with
  | some known =>
    let resident := state.resident.map fun other =>
      if image.sameFile other then other.alsoKnownAs image.names else other
    (known.alsoKnownAs image.names, { state with resident })
  | none => (image, state)

/-- Keeps a library in use. -/
def State.keep (state : State) (image : Image) : State :=
  if image ∈ state.resident then state else { state with resident := state.resident ++ [image] }

/-- Opens a library by a path. -/
def openPath (workspace : Workspace) (state : State) (name : List UInt8) :
    Except String Image × State :=
  let shown := Utf8.decode name
  match workspace.store.locate workspace.here ⟨name⟩ with
  | .error error => (.error (cannotOpen shown error), state)
  | .ok (place, node) =>
    match openNode shown [name] place node with
    | .error reason => (.error reason, state)
    | .ok image =>
      let (image, state) := share state image
      (.ok image, state)

/-- Looks for a name in search directories. -/
def searchIn (workspace : Workspace) (state : State) (name : List UInt8) :
    List (List UInt8) → Except String Image × State
  | [] =>
    let error := if FileStore.nameLimit < name.length then FileError.nameTooLong
      else .noEntry
    (.error (cannotOpen (Utf8.decode name) error), state)
  | directory :: rest =>
    if state.missingDirectories.contains directory then searchIn workspace state name rest
    else
      let path := directory ++ name
      match workspace.store.locate workspace.here ⟨path⟩ with
      | .error _ =>
        let gone := Path.isAbsolute ⟨directory⟩ &&
          !workspace.store.isDirectory workspace.here ⟨directory⟩
        let state := if gone then
            { state with missingDirectories := directory :: state.missingDirectories }
          else state
        searchIn workspace state name rest
      | .ok (place, node) =>
        match openNode (Utf8.decode path) [path, name] place node with
        | .error reason => (.error reason, state)
        | .ok image =>
          let (image, state) := share state image
          (.ok image, state)

/-- The image of the program itself. -/
def ownImage : Image := ⟨[], none, "<main program>", []⟩

/-- Opens a library by a name without a zero byte. -/
def openName (workspace : Workspace) (state : State) (name : List UInt8) :
    Except String Image × State :=
  if name.isEmpty then (.ok ownImage, state)
  else
    match knownAs? state name with
    | some image => (.ok image, state)
    | none =>
      if name.contains Path.slash then openPath workspace state name
      else searchIn workspace state name state.searchDirectories

/-- Opens a library.  One zero byte at the end of its name is what ends a name
anyway. -/
def openLibrary (workspace : Workspace) (state : State) (path : Path) :
    Except String Image × State :=
  let ended := path.bytes.getLast? = some 0
  let name := if ended then path.bytes.dropLast else path.bytes
  if name.contains 0 then
    (.error (if ended then "could not create a C string from bytes with trailing null"
      else "could not create a C string from bytes"), state)
  else openName workspace state name

/-- The linker, as a loader. -/
def loader : Loader State Image where
  openLibrary := openLibrary
  keep := State.keep
  offers image symbol := image.symbols.contains symbol
  complaint image symbol := image.shownName ++ ": undefined symbol: " ++ symbol

end EpsBridge.Linker
