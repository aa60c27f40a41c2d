import EpsBridge.Engine.Output
import EpsBridge.Library.Interface

/-!
# Scripted libraries

A scripted library answers every call as its script says and records the calls
it saw, each with the instance that it was on.  Handlers belong to the instance
for which they were attached.  A call that fails to change them leaves them as they
were.
-/

namespace EpsBridge.ScriptedLibrary

/-- A stream of an instance. -/
inductive Stream where
  | input
  | output
  | diagnostics
deriving DecidableEq, Repr

/-- The name of a stream in the record of calls. -/
def Stream.name : Stream → String
  | input => "in"
  | output => "out"
  | diagnostics => "err"

/-- Calls of a handler with the same bytes. -/
structure Write where
  stream : Stream
  /-- The bytes, or nothing where the handler is given no pointer. -/
  data : Option ByteArray
  /-- The length that the handler is told. -/
  length : Int
  times : Nat

/-- What a library does. -/
structure Script where
  /-- The code of the revision query; zero means that it succeeds. -/
  revisionCode : Int32
  revision : Revision
  /-- The code of making an instance. -/
  creationCode : Int32
  /-- Whether the instance is missing even if the code is no failure. -/
  missingInstance : Bool
  encodingCode : Int32
  /-- The codes of the calls on the handlers of an instance, in order; further
  calls succeed. -/
  handlerCodes : List Int32
  runCode : Int32
  exitCode : Int32
  /-- What is written to the first output that the arguments name. -/
  outputFile : Option ByteArray
  runWrites : List Write
  exitWrites : List Write

/-- A library of version 10.02.1 that succeeds and writes nothing. -/
def Script.default : Script where
  revisionCode := 0
  revision := ⟨"Fake Ghostscript", "(C) Fake", 10021, 20230913⟩
  creationCode := 0
  missingInstance := false
  encodingCode := 0
  handlerCodes := []
  runCode := 0
  exitCode := 0
  outputFile := none
  runWrites := []
  exitWrites := []

/-- A call that a library saw. -/
inductive Call where
  | revision
  /-- The library was asked for an instance, and gave one or none. -/
  | newInstance (given : Option Handle)
  | setArgumentEncoding (handle : Handle) (encoding : Nat)
  | attachHandlers (handle : Handle)
  | detachHandlers (handle : Handle)
  | run (handle : Handle) (argv : List String)
  /-- A handler was called and last gave a number back. -/
  | callback (stream : Stream) (result : Int)
  /-- There was no handler to call. -/
  | noCallback (stream : Stream)
  | exit (handle : Handle)
  | deleteInstance (handle : Handle)
deriving DecidableEq, Repr

/-- The call as an entry of a record of calls, which does not tell instances apart. -/
def Call.toJson : Call → Json
  | revision => .string "revision"
  | newInstance _ => .string "new_instance"
  | setArgumentEncoding _ encoding => .string ("set_arg_encoding " ++ Decimal.ofNat encoding)
  | attachHandlers _ => .string "set_stdio attach"
  | detachHandlers _ => .string "set_stdio detach"
  | run _ argv => .object [("init_with_args", .array (argv.map .string))]
  | callback stream result =>
    .string ("callback " ++ stream.name ++ " " ++ Decimal.ofInt result)
  | noCallback stream => .string ("callback " ++ stream.name ++ " none")
  | exit _ => .string "exit"
  | deleteInstance _ => .string "delete_instance"

/-- What a library knows. -/
structure Machine where
  script : Script
  /-- The calls so far, last first. -/
  calls : List Call
  /-- The instances made so far. -/
  instances : Nat
  /-- The calls on the handlers of the current instance. -/
  handlerCalls : Nat
  /-- Whether handlers are attached to the current instance. -/
  attached : Bool

/-- A library that was never called. -/
def Machine.start (script : Script) : Machine := ⟨script, [], 0, 0, false⟩

/-- Records a call. -/
def Machine.record (machine : Machine) (call : Call) : Machine :=
  { machine with calls := call :: machine.calls }

/-- What the calls of a library change. -/
structure State where
  machine : Machine
  workspace : Workspace

/-- What a handler takes of some bytes: as many as it is told, and none if it is
given no pointer. -/
def Write.taken (write : Write) : Option ByteArray :=
  match write.data with
  | some data => if write.length ≤ 0 then none else some (data.extract 0 write.length.toNat)
  | none => none

/-- What a handler does with its bytes.  The handler of the input reads nothing. -/
def Write.deliver (write : Write) (capture : Capture) : Capture :=
  match write.stream, write.taken with
  | .output, some bytes => capture.write .output bytes
  | .diagnostics, some bytes => capture.write .diagnostics bytes
  | _, _ => capture

/-- What a handler gives back. -/
def Write.result (write : Write) : Int :=
  if write.stream = .input || write.times = 0 then 0 else max write.length 0

/-- Calls a handler as often as a script says. -/
def callHandler (capture : Capture) (machine : Machine) (write : Write) : Capture × Machine :=
  if machine.attached then
    ((List.range write.times).foldl (fun capture _ => write.deliver capture) capture,
      machine.record (.callback write.stream write.result))
  else (capture, machine.record (.noCallback write.stream))

/-- Calls handlers one after another. -/
def callHandlers (writes : List Write) (capture : Capture) (machine : Machine) :
    Capture × Machine :=
  writes.foldl (fun (capture, machine) write => callHandler capture machine write)
    (capture, machine)

/-- Writes the output file of a script, if that is possible. -/
def writeOutput (script : Script) (argv : List String) (workspace : Workspace) : Workspace :=
  match script.outputFile, firstOutput? argv with
  | some content, some path => (workspace.writeFile path content).2
  | _, _ => workspace

/-- Makes an instance. -/
def newInstance (machine : Machine) : (Int32 × Option Handle) × Machine :=
  let script := machine.script
  let handle? := if script.missingInstance || script.creationCode < 0 then none
    else some (machine.instances + 1)
  ((script.creationCode, handle?), { machine.record (.newInstance handle?) with
    instances := machine.instances + 1, handlerCalls := 0, attached := false })

/-- Attaches or detaches handlers. -/
def setHandlers (handle : Handle) (attach : Bool) (machine : Machine) : Int32 × Machine :=
  let code := (machine.script.handlerCodes[machine.handlerCalls]?).getD 0
  let call := if attach then .attachHandlers handle else .detachHandlers handle
  (code, { machine.record call with
    handlerCalls := machine.handlerCalls + 1
    attached := if code < 0 then machine.attached else attach })

/-- Runs an instance. -/
def run (handle : Handle) (argv : List String) (capture : Capture) (state : State) :
    (Int32 × Capture) × State :=
  let script := state.machine.script
  let (capture, machine) :=
    callHandlers script.runWrites capture (state.machine.record (.run handle argv))
  ((script.runCode, capture), ⟨machine, writeOutput script argv state.workspace⟩)

/-- Ends an instance. -/
def exit (handle : Handle) (capture : Capture) (machine : Machine) :
    (Int32 × Capture) × Machine :=
  let (capture, machine) :=
    callHandlers machine.script.exitWrites capture (machine.record (.exit handle))
  ((machine.script.exitCode, capture), machine)

/-- The library that follows the script of its state. -/
def library : Library State where
  revision state :=
    let script := state.machine.script
    let answer := if script.revisionCode = 0 then .ok script.revision
      else .error script.revisionCode
    (answer, { state with machine := state.machine.record .revision })
  newInstance state :=
    let (answer, machine) := newInstance state.machine
    (answer, { state with machine })
  setArgumentEncoding handle encoding state :=
    (state.machine.script.encodingCode,
      { state with machine := state.machine.record (.setArgumentEncoding handle encoding) })
  setHandlers handle attach state :=
    let (code, machine) := setHandlers handle attach state.machine
    (code, { state with machine })
  run := run
  exit handle capture state :=
    let (answer, machine) := exit handle capture state.machine
    (answer, { state with machine })
  deleteInstance handle state :=
    { state with machine := state.machine.record (.deleteInstance handle) }

end EpsBridge.ScriptedLibrary
