import EpsBridge.Path

/-!
# Events of a batch
-/

namespace EpsBridge.Export

/-- What a batch tells while it works.  Positions count from one. -/
inductive Event where
  | batchStart (total : Nat)
  | fileStart (position total : Nat) (input : Path)
  | fileComplete (position total : Nat) (output : Path)
  | fileError (position total : Nat) (input : Path) (message : String)
  | batchComplete (total succeeded : Nat)
deriving DecidableEq, Repr

namespace Event

/-- The name of an event. -/
def name : Event → String
  | batchStart _ => "batch_start"
  | fileStart _ _ _ => "file_start"
  | fileComplete _ _ _ => "file_complete"
  | fileError _ _ _ _ => "file_error"
  | batchComplete _ _ => "batch_complete"

/-- What an event tells. -/
def details : Event → List Json
  | batchStart total => [.ofNat total]
  | fileStart position total input =>
    [.ofNat position, .ofNat total, .string input.display]
  | fileComplete position total output =>
    [.ofNat position, .ofNat total, .string output.display]
  | fileError position total input message =>
    [.ofNat position, .ofNat total, .string input.display, .string message]
  | batchComplete total succeeded => [.ofNat total, .ofNat succeeded]

/-- The event as a record: its name and what it tells. -/
def toJson (event : Event) : Json := .array (.string event.name :: event.details)

end Event

end EpsBridge.Export
