import EpsBridge.Engine.Basic
import EpsBridge.Engine.Output

/-!
# Scripted engines

A fixture stands in for an engine.  Its script says how every call ends and what
is written; the fixture counts the calls and records the arguments.
-/

namespace EpsBridge.Fixture

/-- The call at which a fixture panics. -/
inductive Place where
  | create
  | start
  | stop
deriving DecidableEq, Repr

namespace Place

/-- The name of a call in the message of a panic. -/
def name : Place → String
  | create => "new"
  | start => "init"
  | stop => "exit"

/-- The message of a panic. -/
def message (place : Place) : String := "scripted panic in " ++ place.name

end Place

/-- What a fixture does. -/
structure Script where
  /-- What the fixture says about its release, if it says anything. -/
  revision : Option Revision
  /-- The code with which no instance is made. -/
  creationError : Option Int32
  /-- The code with which no instance is configured. -/
  setupError : Option Int32
  /-- The status of starting. -/
  startStatus : Int32
  /-- The status of stopping. -/
  stopStatus : Int32
  output : String
  diagnostics : String
  /-- What is written to the first output that the arguments name. -/
  outputFile : Option ByteArray
  /-- What is written besides, at the end of a start. -/
  startWrites : List (Channel × ByteArray)
  /-- What is written while stopping. -/
  stopWrites : List (Channel × ByteArray)
  /-- Whether the outputs that the arguments name are removed at the end of a
  start. -/
  removesOutputs : Bool
  panicsAt : Option Place

/-- A fixture of version 10.02.1 that succeeds and writes nothing. -/
def Script.default : Script where
  revision := some ⟨"GPL Ghostscript (fixture)", "Copyright (C) Artifex Software, Inc.",
    10021, 20230913⟩
  creationError := none
  setupError := none
  startStatus := 0
  stopStatus := 0
  output := ""
  diagnostics := ""
  outputFile := none
  startWrites := []
  stopWrites := []
  removesOutputs := false
  panicsAt := none

/-- What a fixture has been asked for. -/
structure Log where
  created : Nat
  started : Nat
  stopped : Nat
  discarded : Nat
  /-- The arguments of each start, last first. -/
  argvs : List (List String)
deriving DecidableEq, Repr, Inhabited

/-- Nothing has been asked for. -/
def Log.empty : Log := ⟨0, 0, 0, 0, []⟩

/-- What the calls of a fixture change. -/
structure State where
  log : Log
  workspace : Workspace
deriving Inhabited

/-- The call of configuring that a fixture blames. -/
def setupCall : String := "gsapi_set_arg_encoding"

/-- Writes to a capture, one piece after another. -/
def writeAll (capture : Capture) (writes : List (Channel × ByteArray)) : Capture :=
  writes.foldl (fun capture (channel, bytes) => capture.write channel bytes) capture

/-- Removes files as far as they can be removed. -/
def removeAll (workspace : Workspace) (paths : List Path) : Workspace :=
  paths.foldl (fun workspace path => (workspace.removeFile path).2) workspace

/-- Writes the output file of a script, if it has one and the arguments name
one. -/
def writeOutput (script : Script) (argv : List String) (workspace : Workspace) :
    Except FileError Unit × Workspace :=
  match script.outputFile, firstOutput? argv with
  | some content, some path => workspace.writeFile path content
  | _, _ => (.ok (), workspace)

/-- What a fixture writes during a start. -/
def writeStart (script : Script) (capture : Capture) : Capture :=
  let capture := capture.write .output script.output.toUTF8
  writeAll (capture.write .diagnostics script.diagnostics.toUTF8) script.startWrites

/-- Makes an instance. -/
def create (script : Script) (state : State) : Outcome Int32 Handle × State :=
  if script.panicsAt = some .create then (.panic Place.create.message, state)
  else
    let log := { state.log with created := state.log.created + 1 }
    match script.creationError with
    | some code => (.error code, { state with log })
    | none => (.ok log.created, { state with log })

/-- Starts an instance. -/
def start (script : Script) (argv : List String) (capture : Capture) (state : State) :
    (Outcome Error Int32 × Capture) × State :=
  let log := { state.log with started := state.log.started + 1 }
  match script.setupError with
  | some code => ((.error (.instanceSetup setupCall code), capture), { state with log })
  | none =>
    match writeOutput script argv state.workspace with
    | (.error error, workspace) => ((.error (.internal error.message), capture), ⟨log, workspace⟩)
    | (.ok (), workspace) =>
      let log := { log with argvs := argv :: log.argvs }
      let workspace :=
        if script.removesOutputs then removeAll workspace (argv.filterMap outputOf?)
        else workspace
      let ended := if script.panicsAt = some .start then .panic Place.start.message
        else .ok script.startStatus
      ((ended, writeStart script capture), ⟨log, workspace⟩)

/-- Stops an instance. -/
def stop (script : Script) (capture : Capture) (state : State) :
    (Outcome Empty Int32 × Capture) × State :=
  let log := { state.log with stopped := state.log.stopped + 1 }
  let ended := if script.panicsAt = some .stop then .panic Place.stop.message
    else .ok script.stopStatus
  ((ended, writeAll capture script.stopWrites), { state with log })

/-- The engine of a script. -/
def engine (script : Script) : Engine State where
  revision state :=
    match script.revision with
    | some revision => (.ok revision, state)
    | none => (.error (.revision "fixture has no revision"), state)
  create := create script
  start _ argv capture state := start script argv capture state
  stop _ capture state := stop script capture state
  discard _ state :=
    (.ok (), { state with log := { state.log with discarded := state.log.discarded + 1 } })

end EpsBridge.Fixture
