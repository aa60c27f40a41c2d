import EpsBridge.Bridge.Basic
import EpsBridge.Engine.Basic
import EpsBridge.Export.Event
import EpsBridge.FileStore.Calls
import EpsBridge.LibraryError

/-!
# Programs

What the bridge does to the world around it is a program: a tree of single
actions, each of which goes on with its answer.  A handler answers actions and
changes a state; running a program by a handler gives its value and the final
state.  As every action is one step, programs of several threads can be run in
any interleaving of their actions.

The type `ε` is that of whatever refers to an engine.
-/

namespace EpsBridge

/-- Where a temporary file is created. -/
inductive TemporaryPlace where
  /-- In a directory, given by a path. -/
  | directory (path : Path)
  /-- In the directory that the system has for such files. -/
  | system
deriving DecidableEq, Repr

/-- One step of a program. -/
inductive Action (ε : Type) where
  /-- Takes the lock that keeps engine runs apart. -/
  | lockEngine
  /-- Gives the engine lock back. -/
  | unlockEngine
  | revision (engine : ε)
  | create (engine : ε)
  | start (engine : ε) (handle : Handle) (argv : List String) (capture : Capture)
  | stop (engine : ε) (handle : Handle) (capture : Capture)
  /-- Gives an instance up, maybe while a panic unwinds. -/
  | discard (engine : ε) (handle : Handle) (unwinding : Bool)
  /-- Asks whether something lies at the end of a path. -/
  | pathExists (path : Path)
  | openFile (path : Path)
  | readFile (path : Path)
  | fileSize (path : Path)
  /-- Creates an empty file under a name that nothing has, between a beginning
  and an ending. -/
  | createTemporary (place : TemporaryPlace) (beginning ending : String)
  | moveFile (source target : Path)
  /-- Removes a file, if it can be removed. -/
  | removeFile (path : Path)
  | makeDirectories (path : Path)
  /-- Reads the clock, in milliseconds. -/
  | readClock
  | notify (event : Export.Event)
  /-- Binds an engine library, searching for one unless a path is given. -/
  | load (path : Option Path)
  /-- Takes the lock of the slot for the bridge that callers share. -/
  | lockSlot
  /-- Gives the lock of the slot back. -/
  | unlockSlot
  | readSlot
  | fillSlot (bridge : Bridge ε)
  | readLastError
  | writeLastError (number : Nat)

namespace Action

/-- What an action is answered with.  While a panic unwinds, a second one is no answer: it
ends the process. -/
abbrev Answer {ε : Type} : Action ε → Type
  | lockEngine | unlockEngine | discard _ _ true | removeFile _ | notify _ => Unit
  | lockSlot | unlockSlot | fillSlot _ | writeLastError _ => Unit
  | revision _ => Outcome Error Revision
  | create _ => Outcome Int32 Handle
  | start _ _ _ _ => Outcome Error Int32 × Capture
  | stop _ _ _ => Outcome Empty Int32 × Capture
  | discard _ _ false => Outcome Empty Unit
  | pathExists _ => Bool
  | openFile _ => Except FileError FileStore.Opened
  | readFile _ => Except FileError ByteArray
  | fileSize _ => Except FileError Nat
  | createTemporary _ _ _ => Except FileError Path
  | moveFile _ _ => Except FileError Unit
  | makeDirectories _ => Except FileError Unit
  | readClock | readLastError => Nat
  | load _ => Except LibraryError ε
  | readSlot => Option (Bridge ε)

end Action

/-- A program with a value of type `α`. -/
inductive Program (ε α : Type) where
  | done (value : α)
  | act (action : Action ε) (next : action.Answer → Program ε α)

namespace Program

variable {ε α β σ : Type}

/-- Goes on with the value of a program. -/
def bind (program : Program ε α) (next : α → Program ε β) : Program ε β :=
  match program with
  | done value => next value
  | act action rest => act action fun answer => (rest answer).bind next

instance : Monad (Program ε) where
  pure := done
  bind := bind

/-- The program of one action. -/
def perform (action : Action ε) : Program ε action.Answer := act action done

/-- What answers actions and keeps a state. -/
abbrev Handler (ε σ : Type) := (action : Action ε) → σ → action.Answer × σ

/-- Runs a program. -/
def run (handler : Handler ε σ) : Program ε α → σ → α × σ
  | done value, state => (value, state)
  | act action next, state =>
    let (answer, state) := handler action state
    run handler (next answer) state

end Program

end EpsBridge
