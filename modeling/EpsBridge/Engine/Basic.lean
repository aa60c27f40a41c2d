import EpsBridge.Engine.Capture
import EpsBridge.Error
import EpsBridge.Outcome
import EpsBridge.Revision

/-!
# Engines

An engine makes instances.  An instance is created, started with arguments,
stopped and discarded.  What it writes while it starts and while it stops goes
to the capture that is handed in.  Any of these calls may panic.
-/

namespace EpsBridge

/-- The number by which an engine knows one of its instances. -/
abbrev Handle := Nat

namespace Status

/-- The status of an engine that was told to quit. -/
def quit : Int32 := -101

/-- Whether a status means that a run is complete. -/
def isSuccess (status : Int32) : Bool :=
  status = 0 || status = quit

/-- The status of a run: what starting gave, unless that is a success and
stopping decides. -/
def ofRun (started stopped : Int32) : Int32 :=
  if isSuccess started then stopped else started

end Status

/-- An engine whose calls change a state `σ`. -/
structure Engine (σ : Type) where
  /-- Says which release the engine is. -/
  revision : σ → Outcome Error Revision × σ
  /-- Makes an instance, or fails with a code. -/
  create : σ → Outcome Int32 Handle × σ
  /-- Starts an instance with arguments, the program's name first.  An error
  means that it could not be configured and never ran; a status, that it ran. -/
  start : Handle → List String → Capture → σ → (Outcome Error Int32 × Capture) × σ
  /-- Stops an instance that ran. -/
  stop : Handle → Capture → σ → (Outcome Empty Int32 × Capture) × σ
  /-- Gives an instance up. -/
  discard : Handle → σ → Outcome Empty Unit × σ

namespace Engine

/-- An engine on a part of a larger state. -/
def onPart {σ τ : Type} (get : τ → σ) (set : σ → τ → τ) (engine : Engine σ) : Engine τ where
  revision state :=
    let (answer, part) := engine.revision (get state)
    (answer, set part state)
  create state :=
    let (answer, part) := engine.create (get state)
    (answer, set part state)
  start handle argv capture state :=
    let (answer, part) := engine.start handle argv capture (get state)
    (answer, set part state)
  stop handle capture state :=
    let (answer, part) := engine.stop handle capture (get state)
    (answer, set part state)
  discard handle state :=
    let (answer, part) := engine.discard handle (get state)
    (answer, set part state)

end Engine

end EpsBridge
