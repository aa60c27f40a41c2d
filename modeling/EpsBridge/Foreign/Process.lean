import EpsBridge.Foreign.Call
import EpsBridge.Threads

/-!
# Processes that make foreign calls

The threads of a process make foreign calls, each thread its own one after another.  A
schedule names for every step the call that makes it.  A call is named in vain while an
earlier call of its thread has not returned, and while it waits for a lock.
-/

namespace EpsBridge.Foreign

/-- The thread that makes a call, by the position of the call. -/
def threadOf {ε : Type} (callers : List (Nat × Call ε)) (index : Nat) : Option Nat :=
  callers[index]?.map Prod.fst

/-- The programs of calls. -/
def programsOf {ε : Type} (callers : List (Nat × Call ε)) : List (Program ε Value) :=
  callers.map fun caller => caller.2.program

/-- Calls on one host, each with its thread. -/
structure Process where
  callers : List (Nat × Call EngineRef)
  programs : List (Program EngineRef Value)
  host : Host

namespace Process

/-- Calls of which none has begun. -/
def start (callers : List (Nat × Call EngineRef)) (host : Host) : Process :=
  ⟨callers, programsOf callers, host⟩

/-- Whether the earlier calls of the thread of a call have returned. -/
def isTurn (process : Process) (index : Nat) : Bool :=
  (List.range index).all fun earlier =>
    threadOf process.callers earlier != threadOf process.callers index ||
      match process.programs[earlier]? with
      | some (.done _) => true
      | _ => false

/-- Lets a call make one step, if it can. -/
def step (process : Process) (index : Nat) : Process :=
  match threadOf process.callers index, process.programs[index]? with
  | some thread, some (.act action next) =>
    if process.isTurn index && process.host.permits action then
      let (answer, host) := Host.handle thread action process.host
      { process with programs := process.programs.set index (next answer), host }
    else process
  | _, _ => process

/-- Lets calls make steps in the order of a schedule. -/
def follow (process : Process) (schedule : List Nat) : Process :=
  schedule.foldl step process

/-- What the calls that have returned gave back. -/
def values (process : Process) : List (Option Value) :=
  process.programs.map fun
    | .done value => some value
    | .act _ _ => none

end Process

end EpsBridge.Foreign
