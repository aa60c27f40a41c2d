import EpsBridge.Engine.Fixture
import EpsBridge.Library.Linux
import EpsBridge.Library.Scripted
import EpsBridge.Library.Search
import EpsBridge.Program

/-!
# Hosts

A host is a process in which programs run, as a value: its files, its
environment, its engines, its locks, and the slot for the bridge that callers
share.  It answers every action, so a program together with a host says what
happens, and what there is afterwards.
-/

namespace EpsBridge

/-- What refers to an engine of a host. -/
inductive EngineRef where
  /-- A scripted engine, with the position of its log. -/
  | fixture (index : Nat) (script : Fixture.Script)
  /-- The engine library, with the path that it was bound at. -/
  | library (path : Path)

/-- A process. -/
structure Host where
  workspace : Workspace
  search : LibrarySearch.State Linker.State
  /-- The engine library of the host, wherever it lies. -/
  machine : ScriptedLibrary.Machine
  /-- The logs of the scripted engines. -/
  logs : List Fixture.Log
  engineLocked : Bool
  slotLocked : Bool
  slot : Option (Bridge EngineRef)
  /-- The number that each thread's last foreign call left. -/
  lastErrors : Nat → Nat
  /-- What was told about batches, last first. -/
  events : List Export.Event

namespace Host

/-- A host in which nothing has happened. -/
def start (workspace : Workspace) (environment : Environment)
    (script : ScriptedLibrary.Script) : Host where
  workspace := workspace
  search := ⟨environment, Linux.startLinker environment, none⟩
  machine := .start script
  logs := []
  engineLocked := false
  slotLocked := false
  slot := none
  lastErrors := fun _ => 0
  events := []

/-- Adds a scripted engine. -/
def addFixture (host : Host) (script : Fixture.Script) : EngineRef × Host :=
  (.fixture host.logs.length script, { host with logs := host.logs ++ [.empty] })

/-! ## Engines -/

/-- The log at a position. -/
def logAt (host : Host) (index : Nat) : Fixture.Log := (host.logs[index]?).getD .empty

/-- The engine library, as an engine on the host. -/
def libraryEngine : Engine Host :=
  ScriptedLibrary.library.engine.onPart (fun host => ⟨host.machine, host.workspace⟩)
    fun part host => { host with machine := part.machine, workspace := part.workspace }

/-- A scripted engine, as an engine on the host. -/
def fixtureEngine (index : Nat) (script : Fixture.Script) : Engine Host :=
  (Fixture.engine script).onPart (fun host => ⟨host.logAt index, host.workspace⟩)
    fun part host =>
      { host with logs := host.logs.set index part.log, workspace := part.workspace }

/-- The engine that something refers to. -/
def engineOf : EngineRef → Engine Host
  | .fixture index script => fixtureEngine index script
  | .library _ => libraryEngine

/-! ## Actions -/

/-- Puts the result of a call on files into a host. -/
def withWorkspace {α : Type} (host : Host) (result : α × Workspace) : α × Host :=
  (result.1, { host with workspace := result.2 })

/-- Binds the engine library and keeps it in use. -/
def load (host : Host) (path : Option Path) : Except LibraryError EngineRef × Host :=
  match LibrarySearch.bindLibrary Linux.platform host.workspace host.search path with
  | (.error error, search) => (.error error, { host with search })
  | (.ok (path, image), search) =>
    let loader := { search.loader with resident := [image] }
    (.ok (.library path), { host with search := { search with loader } })

/-- Lets go of a library that was bound in passing: what was in use at an earlier
time is in use again. -/
def restoreLibrary (host earlier : Host) : Host :=
  let now := host.search.loader.resident
  let resident := earlier.search.loader.resident.map fun before =>
    (now.find? fun image => image.place = before.place).getD before
  { host with search.loader.resident := resident }

/-- Lets go of the engine library. -/
def releaseLibrary (host : Host) : Host :=
  { host with search.loader.resident := [] }

/-- Puts a bridge into the slot, in place of the one that was there.  A library
that only the old one used is let go of. -/
def fillSlot (host : Host) (bridge : Bridge EngineRef) : Host :=
  let host := { host with slot := some bridge }
  match bridge.engine with
  | .fixture _ _ => host.releaseLibrary
  | .library _ => host

/-- Creates a temporary file. -/
def createTemporary (host : Host) (place : TemporaryPlace) (beginning ending : String) :
    Except FileError Path × Host :=
  let directory := match place with
    | .directory path => path
    | .system => host.workspace.temporaryPath
  host.withWorkspace (host.workspace.createTemporary directory beginning ending)

/-- Notes the number that a thread's last call left. -/
def noteError (host : Host) (thread number : Nat) : Host :=
  { host with lastErrors := fun other => if other = thread then number else host.lastErrors other }

/-- Answers an action of a thread. -/
def handle (thread : Nat) : Program.Handler EngineRef Host
  | .lockEngine, host => ((), { host with engineLocked := true })
  | .unlockEngine, host => ((), { host with engineLocked := false })
  | .revision engine, host => (engineOf engine).revision host
  | .create engine, host => (engineOf engine).create host
  | .start engine handle argv capture, host => (engineOf engine).start handle argv capture host
  | .stop engine handle capture, host => (engineOf engine).stop handle capture host
  | .discard engine handle false, host => (engineOf engine).discard handle host
  | .discard engine handle true, host => ((), ((engineOf engine).discard handle host).2)
  | .pathExists path, host => (host.workspace.exists? path, host)
  | .openFile path, host =>
    (host.workspace.store.openForReading host.workspace.here path, host)
  | .readFile path, host => (host.workspace.store.readFile host.workspace.here path, host)
  | .fileSize path, host => (host.workspace.store.sizeOf host.workspace.here path, host)
  | .createTemporary place beginning ending, host => host.createTemporary place beginning ending
  | .moveFile source target, host =>
    host.withWorkspace (host.workspace.moveFile source target)
  | .removeFile path, host => ((), { host with workspace := (host.workspace.removeFile path).2 })
  | .makeDirectories path, host => host.withWorkspace (host.workspace.makeDirectories path)
  | .readClock, host => (host.workspace.clock, host)
  | .notify event, host => ((), { host with events := event :: host.events })
  | .load path, host => host.load path
  | .lockSlot, host => ((), { host with slotLocked := true })
  | .unlockSlot, host => ((), { host with slotLocked := false })
  | .readSlot, host => (host.slot, host)
  | .fillSlot bridge, host => ((), host.fillSlot bridge)
  | .readLastError, host => (host.lastErrors thread, host)
  | .writeLastError number, host => ((), host.noteError thread number)

/-- The number of the first thread. -/
def firstThread : Nat := 0

/-- Runs a program on the first thread, while no other thread does anything. -/
def run {α : Type} (host : Host) (program : Program EngineRef α) : α × Host :=
  program.run (handle firstThread) host

end Host

end EpsBridge
