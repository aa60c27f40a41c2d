import EpsBridge.Program
import EpsBridge.Request
import EpsBridge.Text.Quoted

/-!
# One run of an engine

A run creates an instance, starts it, stops it and discards it, all under the
lock that keeps engine runs apart.  Whatever happens on the way, an instance
that was created is discarded once, and one that was never started is not
stopped.  The exception is an engine that panics while it stops: what is left of
its instance is not touched again.

An engine may panic while it discards an instance, too.  The run panics then,
unless it is a panic already that the instance is discarded for.
-/

namespace EpsBridge

open Program

/-- The name under which an engine is run. -/
def programName : String := "gs"

namespace Arguments

/-- What is wrong with an argument that holds a zero character. -/
def nulReason (argument : String) : String :=
  "contains a NUL byte: " ++ Quoted.text argument

/-- The first argument that holds a zero character, and its position. -/
def firstNul? (arguments : Arguments) : Option (Nat × String) :=
  (arguments.toList.zipIdx.find? fun (argument, _) => argument.toList.contains '\x00').map
    fun (argument, index) => (index, argument)

/-- The arguments behind the name of the program, if they can be passed. -/
def argv (arguments : Arguments) : Except Error (List String) :=
  match arguments.firstNul? with
  | some (index, argument) => .error (.invalidArgument index (nulReason argument))
  | none => .ok (programName :: arguments.toList)

end Arguments

/-- What a run comes to that was started and stopped. -/
def concludeRun (started stopped : Int32) (capture : Capture) : Outcome Error Capture :=
  let status := Status.ofRun started stopped
  if Status.isSuccess status then .ok capture
  else .error (.execution status (capture.text .diagnostics))

variable {ε : Type}

/-- Discards an instance, after which a run would come to an outcome. -/
def discardAfter (engine : ε) (handle : Handle) (outcome : Outcome Error Capture) :
    Program ε (Outcome Error Capture) := do
  return outcome.unlessPanicked (← perform (.discard engine handle false))

/-- Stops and discards an instance that ran. -/
def finishRun (engine : ε) (handle : Handle) (started : Int32) (capture : Capture) :
    Program ε (Outcome Error Capture) := do
  match ← perform (.stop engine handle capture) with
  | (.panic message, _) => return .panic message
  | (.ok stopped, capture) => discardAfter engine handle (concludeRun started stopped capture)

/-- Runs an instance that was created. -/
def runInstance (engine : ε) (handle : Handle) (argv : List String) :
    Program ε (Outcome Error Capture) := do
  match ← perform (.start engine handle argv .empty) with
  | (.ok started, capture) => finishRun engine handle started capture
  | (.error error, _) => discardAfter engine handle (.error error)
  | (.panic message, _) =>
    perform (.discard engine handle true)
    return .panic message

/-- Creates an instance and runs it. -/
def createAndRun (engine : ε) (argv : List String) : Program ε (Outcome Error Capture) := do
  match ← perform (.create engine) with
  | .ok handle => runInstance engine handle argv
  | .error code => return .error (.instanceCreation code)
  | .panic message => return .panic message

/-- Runs an engine with arguments.  Arguments that cannot be passed are refused
before anything else happens. -/
def invoke (engine : ε) (arguments : Arguments) : Program ε (Outcome Error Capture) :=
  match arguments.argv with
  | .error error => return .error error
  | .ok argv => do
    perform .lockEngine
    let outcome ← createAndRun engine argv
    perform .unlockEngine
    return outcome

end EpsBridge
