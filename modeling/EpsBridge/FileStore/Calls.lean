import EpsBridge.FileStore.Basic

/-!
# Calls on file stores

The calls that the bridge and its engines make on files.  A call that fails
leaves the store as it was, except that creating a chain of directories keeps
those it has created.
-/

namespace EpsBridge.FileStore

/-! ## Looking -/

/-- Whether something lies at the end of a path. -/
def exists? (store : FileStore) (here : Location) (path : Path) : Bool :=
  (store.locate here path).isOk

/-- Whether a directory lies at the end of a path. -/
def isDirectory (store : FileStore) (here : Location) (path : Path) : Bool :=
  match store.locate here path with
  | .ok (_, .directory) => true
  | _ => false

/-- The beginning of every image of a library. -/
def libraryMagic : ByteArray :=
  ⟨#[0x7F, 0x45, 0x4C, 0x46, 2, 1, 1, 0]⟩

/-- The size of what is not an ordinary file. -/
def otherSize : Nat := 4096

/-- The size of what lies at the end of a path. -/
def sizeOf (store : FileStore) (here : Location) (path : Path) : Except FileError Nat := do
  match ← store.locate here path with
  | (_, .file content _) => return content.size
  | _ => return otherSize

/-- What opening a file for reading gives. -/
inductive Opened where
  | file (content : ByteArray) (modified : Int)
  /-- A directory opens, and fails when it is read. -/
  | directory

/-- Opens what lies at the end of a path for reading. -/
def openForReading (store : FileStore) (here : Location) (path : Path) :
    Except FileError Opened := do
  match ← store.locate here path with
  | (_, .directory) => return .directory
  | (_, .file content modified) => return .file content modified
  | (_, .library _ modified) => return .file libraryMagic modified

/-- Reads the file at the end of a path. -/
def readFile (store : FileStore) (here : Location) (path : Path) :
    Except FileError ByteArray := do
  match ← store.openForReading here path with
  | .file content _ => .ok content
  | .directory => .error .isDirectory

/-! ## Changing -/

/-- Writes a file, in place of the file that lies there. -/
def writeFile (store : FileStore) (here : Location) (path : Path) (content : ByteArray)
    (modified : Int) : Except FileError FileStore := do
  match ← store.lastStep here path with
  | .unnamed => .error .isDirectory
  | .named _ _ true => .error .isDirectory
  | .named directory name false =>
    match store.node? (name :: directory) with
    | some .directory => .error .isDirectory
    | _ => .ok (store.insert (name :: directory) (.file content modified))

/-- Creates an empty file where nothing lies. -/
def createFile (store : FileStore) (here : Location) (path : Path) (modified : Int) :
    Except FileError FileStore := do
  match ← store.lastStep here path with
  | .unnamed => .error .alreadyExists
  | .named _ _ true => .error .isDirectory
  | .named directory name false =>
    match store.node? (name :: directory) with
    | some _ => .error .alreadyExists
    | none => .ok (store.insert (name :: directory) (.file ByteArray.empty modified))

/-- Creates a directory where nothing lies. -/
def makeDirectory (store : FileStore) (here : Location) (path : Path) :
    Except FileError FileStore := do
  match ← store.lastStep here path with
  | .unnamed =>
    match store.locate here path with
    | .ok _ => .error .alreadyExists
    | .error error => .error error
  | .named directory name _ =>
    match store.node? (name :: directory) with
    | some _ => .error .alreadyExists
    | none => .ok (store.insert (name :: directory) .directory)

/-- Creates the first directory of a list, and where it lacks the directory that
it lies in, first the rest of the list. -/
def makeChain (store : FileStore) (here : Location) :
    List Path → Except FileError Unit × FileStore
  | [] => (.ok (), store)
  | path :: enclosing =>
    let settle (store : FileStore) (error : FileError) : Except FileError Unit × FileStore :=
      if error = .alreadyExists && store.isDirectory here path then (.ok (), store)
      else (.error error, store)
    match store.makeDirectory here path with
    | .ok store => (.ok (), store)
    | .error error =>
      if error = .noEntry then
        match store.makeChain here enclosing with
        | (.error error, store) => (.error error, store)
        | (.ok (), store) =>
          match store.makeDirectory here path with
          | .ok store => (.ok (), store)
          | .error error => settle store error
      else settle store error

/-- A path and the paths of the directories around it, up to `count` of them,
without the root and the empty path. -/
def ancestors : Nat → Path → List Path
  | 0, _ => []
  | count + 1, path =>
    match path.parent? with
    | none => []
    | some parent => path :: ancestors count parent

/-- Creates a directory with all directories around it, as far as they are
missing.  The empty path names what is always there. -/
def makeDirectories (store : FileStore) (here : Location) (path : Path) :
    Except FileError Unit × FileStore :=
  store.makeChain here (ancestors path.bytes.length path)

/-- Removes the file at the end of a path. -/
def removeFile (store : FileStore) (here : Location) (path : Path) :
    Except FileError FileStore := do
  match ← store.locate here path with
  | (_, .directory) => .error .isDirectory
  | (place, _) => .ok (store.erase place)

/-- Moves a file to another path, in place of the file that lies there. -/
def moveFile (store : FileStore) (here : Location) (source target : Path) :
    Except FileError FileStore := do
  if target.hasNul then .error .invalid else .ok ()
  let (place, node) ← store.locate here source
  match ← store.lastStep here target with
  | .unnamed => .error .busy
  | .named directory name slash =>
    if slash then .error .notDirectory
    else
      match store.node? (name :: directory) with
      | some .directory => .error .isDirectory
      | _ => .ok ((store.erase place).insert (name :: directory) node)

/-! ## Temporary files -/

/-- The digits of temporary names. -/
def temporaryDigits : List UInt8 := Utf8.encode "0123456789abcdefghijklmnopqrstuvwxyz"

/-- The number of digits in a temporary name. -/
def temporaryWidth : Nat := 6

/-- The last `width` digits of a number, in the number of digits there are. -/
def temporaryText : Nat → Nat → List UInt8
  | 0, _ => []
  | width + 1, number =>
    temporaryText width (number / temporaryDigits.length) ++
      [(temporaryDigits[number % temporaryDigits.length]?).getD 0]

/-- The name of a temporary file with a number. -/
def temporaryName (beginning ending : String) (number : Nat) : List UInt8 :=
  Utf8.encode beginning ++ temporaryText temporaryWidth number ++ Utf8.encode ending

/-- The first temporary name that no entry of the store has. -/
def freshName (store : FileStore) (beginning ending : String) : List UInt8 :=
  let taken := store.entries.filterMap fun entry => entry.1.head?
  let names := (List.range (taken.length + 1)).map (temporaryName beginning ending)
  (names.find? fun name => !taken.contains name).getD []

end EpsBridge.FileStore
