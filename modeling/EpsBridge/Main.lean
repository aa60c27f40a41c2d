import EpsBridge.Cli.Run
import EpsBridge.Library.Search

/-!
# The program

The command line in the world of a process: its actions are carried out on the
files of the system.  No shared library can be opened from here, so a search for
an engine finds none, and nothing that refers to an engine is ever answered; what
needs no engine works.
-/

namespace EpsBridge.World

/-- What a failed call on files reports. -/
def failureOf (error : IO.Error) : FileError :=
  match error with
  | .noFileOrDirectory _ _ _ => .noEntry
  | .alreadyExists _ code _ | .permissionDenied _ code _ | .inappropriateType _ code _
  | .invalidArgument _ code _ | .resourceExhausted _ code _ => .system code.toNat
  | .resourceBusy code _ | .otherError code _ => .system code.toNat
  | other => .stated (toString other)

/-- Makes a call on files. -/
def attempt {α : Type} (call : IO α) : IO (Except FileError α) := do
  try return .ok (← call)
  catch error => return .error (failureOf error)

/-- Makes a call with the text of a path. -/
def withText {α : Type} (path : Path) (call : String → IO α) : IO (Except FileError α) :=
  match path.text? with
  | some text => attempt (call text)
  | none => return .error (.stated "path is not valid UTF-8")

/-- Opens what lies at the end of a path for reading. -/
def openAt (text : String) : IO FileStore.Opened := do
  let found ← IO.FS.realPath text
  if ← found.isDir then return .directory
  else return .file (← IO.FS.readBinFile found) (← found.metadata).modified.sec

/-- Creates an empty file under a random name. -/
def createTemporary (directory : String) (beginning ending : String) : IO Path := do
  let number ← IO.rand 0 999999999
  let name := FileStore.temporaryName beginning ending number
  let path := (Path.ofString directory).join ⟨name⟩
  IO.FS.withFile path.display .writeNew fun _ => pure ()
  return path

/-- Why no library is bound. -/
def noLibraries : String := "shared libraries cannot be opened"

/-- The failure of every search for an engine. -/
def searchFailure : Option Path → LibraryError
  | some path => .bind path noLibraries
  | none =>
    .notFound (LibrarySearch.defaultNames.map fun name => name ++ " (" ++ noLibraries ++ ")")

/-- Carries out an action. -/
def answer : (action : Action Empty) → IO action.Answer
  | .lockEngine | .unlockEngine | .lockSlot | .unlockSlot => return ()
  | .revision engine | .create engine => nomatch engine
  | .start engine _ _ _ | .stop engine _ _ | .discard engine _ _ => nomatch engine
  | .pathExists path => return (← withText path fun text => IO.FS.realPath text).isOk
  | .openFile path => withText path openAt
  | .readFile path => withText path fun text => IO.FS.readBinFile text
  | .fileSize path => withText path fun text => do
    return (← (← IO.FS.realPath text).metadata).byteSize.toNat
  | .createTemporary (.directory path) beginning ending =>
    withText path fun text => createTemporary text beginning ending
  | .createTemporary .system beginning ending =>
    attempt (createTemporary "/tmp" beginning ending)
  | .moveFile source target =>
    withText source fun source => IO.FS.rename source target.display
  | .removeFile path => do
    let _ ← withText path fun text => IO.FS.removeFile text
  | .makeDirectories path => withText path fun text => IO.FS.createDirAll text
  | .readClock => IO.monoMsNow
  | .notify _ => return ()
  | .load path => return .error (searchFailure path)
  | .readSlot => return none
  | .fillSlot bridge => nomatch bridge.engine
  | .readLastError => return 0
  | .writeLastError _ => return ()

/-- Carries out a program. -/
def perform {α : Type} : Program Empty α → IO α
  | .done value => return value
  | .act action next => do perform (next (← answer action))

/-- The variables of the command line that are set. -/
def environment : IO Environment :=
  (Cli.Key.all.filterMap Cli.Key.variableName?).filterMapM fun name => do
    return (← IO.getEnv name).map fun value => (name, Utf8.encode value)

end EpsBridge.World

/-- Runs a command line and gives its status. -/
def main (arguments : List String) : IO UInt32 := do
  let ended ← EpsBridge.World.perform
    (EpsBridge.Cli.run (← EpsBridge.World.environment) (arguments.map EpsBridge.Utf8.encode))
  (← IO.getStdout).putStr ended.output
  (← IO.getStderr).putStr ended.diagnostics
  return UInt32.ofNat ended.status
