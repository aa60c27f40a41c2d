import EpsBridge.Host

/-!
# Threads

Several programs run on one host, one to a thread.  A schedule names for every
step the thread that makes it, and every interleaving of the threads' actions is
the run of some schedule.  A thread that asks for a lock which is taken waits: it
is named in vain until the lock is free.  A thread whose program has ended is
named in vain for ever.
-/

namespace EpsBridge

/-- Whether an action can be answered at once. -/
def Host.permits (host : Host) : Action EngineRef → Bool
  | .lockEngine => !host.engineLocked
  | .lockSlot => !host.slotLocked
  | _ => true

/-- Programs on threads of one host.  Threads are numbered from zero. -/
structure Threads (α : Type) where
  programs : List (Program EngineRef α)
  host : Host

namespace Threads

variable {α : Type}

/-- Lets a thread make one step, if it can. -/
def step (threads : Threads α) (thread : Nat) : Threads α :=
  match threads.programs[thread]? with
  | some (.act action next) =>
    if threads.host.permits action then
      let (answer, host) := Host.handle thread action threads.host
      ⟨threads.programs.set thread (next answer), host⟩
    else threads
  | _ => threads

/-- Lets threads make steps in the order of a schedule. -/
def follow (threads : Threads α) (schedule : List Nat) : Threads α :=
  schedule.foldl step threads

/-- The values of the threads that have ended. -/
def values (threads : Threads α) : List α :=
  threads.programs.filterMap fun
    | .done value => some value
    | .act _ _ => none

/-- Whether all threads have ended. -/
def hasEnded (threads : Threads α) : Bool :=
  threads.values.length = threads.programs.length

end Threads

end EpsBridge
