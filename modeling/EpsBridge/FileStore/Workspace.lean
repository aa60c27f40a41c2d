import EpsBridge.FileStore.Calls

/-!
# Workspaces

A workspace is a file store as one process sees it: with a working directory, a
directory for temporary files, and a clock.
-/

namespace EpsBridge

/-- The files of a process. -/
structure Workspace where
  store : FileStore
  /-- The location of the working directory. -/
  here : Location
  /-- The absolute path of the working directory. -/
  herePath : Path
  /-- The absolute path of the directory for temporary files. -/
  temporaryPath : Path
  /-- The time, in milliseconds from the beginning of 1970. -/
  clock : Nat
deriving Inhabited

namespace Workspace

/-- The location of an absolute path without dots. -/
def locationOf (path : Path) : Location :=
  (FileStore.segments path).reverse

/-- A location and all locations around it, the root left out. -/
def enclosing : Location → List Location
  | [] => []
  | name :: outer => (name :: outer) :: enclosing outer

/-- A workspace in which nothing lies but its two directories and what encloses
them. -/
def empty (herePath temporaryPath : Path) (clock : Nat) : Workspace :=
  let here := locationOf herePath
  let directories := enclosing here ++ enclosing (locationOf temporaryPath)
  let store := directories.foldl (fun store place => store.insert place .directory) .empty
  ⟨store, here, herePath, temporaryPath, clock⟩

/-- The second that changes to files are marked with. -/
def second (workspace : Workspace) : Int := Int.ofNat (workspace.clock / 1000)

/-- Puts the result of a call into the workspace. -/
def settle (workspace : Workspace) :
    Except FileError FileStore → Except FileError Unit × Workspace
  | .ok store => (.ok (), { workspace with store })
  | .error error => (.error error, workspace)

/-- Whether something lies at the end of a path. -/
def exists? (workspace : Workspace) (path : Path) : Bool :=
  workspace.store.exists? workspace.here path

/-- Writes a file. -/
def writeFile (workspace : Workspace) (path : Path) (content : ByteArray) :
    Except FileError Unit × Workspace :=
  workspace.settle (workspace.store.writeFile workspace.here path content workspace.second)

/-- Removes a file. -/
def removeFile (workspace : Workspace) (path : Path) : Except FileError Unit × Workspace :=
  workspace.settle (workspace.store.removeFile workspace.here path)

/-- Moves a file. -/
def moveFile (workspace : Workspace) (source target : Path) :
    Except FileError Unit × Workspace :=
  workspace.settle (workspace.store.moveFile workspace.here source target)

/-- Creates a directory and what is missing around it. -/
def makeDirectories (workspace : Workspace) (path : Path) :
    Except FileError Unit × Workspace :=
  let (result, store) := workspace.store.makeDirectories workspace.here path
  (result, { workspace with store })

/-- Creates an empty file under a fresh name in a directory. -/
def createTemporary (workspace : Workspace) (directory : Path) (beginning ending : String) :
    Except FileError Path × Workspace :=
  let name := workspace.store.freshName beginning ending
  let path := (workspace.herePath.join directory).join ⟨name⟩
  match workspace.store.createFile workspace.here path workspace.second with
  | .ok store => (.ok path, { workspace with store })
  | .error error => (.error (.located error path), workspace)

/-! ## Contents -/

/-- Puts something at the end of a path, with the directories around it, as far
as that is possible. -/
def place (workspace : Workspace) (path : Path) (node : FileNode) : Workspace :=
  match node with
  | .directory => (workspace.makeDirectories path).2
  | _ =>
    let enclosed := match path.parent? with
      | some parent => (workspace.makeDirectories parent).2
      | none => workspace
    match enclosed.store.lastStep enclosed.here path with
    | .ok (.named directory name false) =>
      { enclosed with store := enclosed.store.insert (name :: directory) node }
    | _ => enclosed

/-- Removes what lies at the end of a path, and everything below it. -/
def removeTree (workspace : Workspace) (path : Path) : Workspace :=
  match workspace.store.locate workspace.here path with
  | .ok (root, _) =>
    { workspace with store.entries :=
        workspace.store.entries.filter fun entry => !root.isSuffixOf entry.1 }
  | .error _ => workspace

/-- Everything below the working directory, by the paths that lead there. -/
def contents (workspace : Workspace) : List (Path × FileNode) :=
  let here := workspace.here.reverse
  workspace.store.entries.filterMap fun (place, node) =>
    let steps := place.reverse
    if here.isPrefixOf steps && here.length < steps.length then
      some (⟨[Path.slash].intercalate (steps.drop here.length)⟩, node)
    else none

end Workspace

end EpsBridge
