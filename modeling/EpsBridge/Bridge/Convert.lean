import EpsBridge.BoundingBox
import EpsBridge.Bridge.Invoke

/-!
# Conversions

The typed operations of a bridge.  Each makes a request, runs it, and reads what
it needs from the outcome.
-/

namespace EpsBridge.Bridge

open Program

variable {ε : Type}

/-- What the engine says about its release. -/
def revision (bridge : Bridge ε) : Program ε (Outcome Error Revision) :=
  perform (.revision bridge.engine)

/-- The version of the engine. -/
def version (bridge : Bridge ε) : Program ε (Outcome Error String) := do
  return (← bridge.revision).map Revision.version

/-- Runs a request. -/
def run (bridge : Bridge ε) (request : Request) : Program ε (Outcome Error Capture) :=
  invoke bridge.engine request.arguments

/-- Runs a request for the sake of its effect. -/
def convert (bridge : Bridge ε) (request : Request) : Program ε (Outcome Error Unit) := do
  return (← bridge.run request).map fun _ => ()

/-- The error of a resolution that is zero. -/
def zeroResolution : Error := .invalidConfig "dpi must be positive"

/-- Renders a file to PNG. -/
def renderPng (bridge : Bridge ε) (input output : String) (dpi : UInt32) :
    Program ε (Outcome Error Unit) :=
  match Resolution.of? dpi with
  | none => return .error zeroResolution
  | some resolution => bridge.convert ⟨input, output, .toPng resolution⟩

/-- Renders a file to JPEG. -/
def renderJpeg (bridge : Bridge ε) (input output : String) (dpi : UInt32) (quality : Int32) :
    Program ε (Outcome Error Unit) :=
  match Resolution.of? dpi with
  | none => return .error zeroResolution
  | some resolution => bridge.convert ⟨input, output, .toJpeg resolution quality⟩

/-- Converts a file to PDF, cropped to its box. -/
def convertPdf (bridge : Bridge ε) (input output : String) : Program ε (Outcome Error Unit) :=
  bridge.convert ⟨input, output, .toPdf⟩

/-- Runs the engine with arguments of the caller's own. -/
def execute (bridge : Bridge ε) (arguments : List String) :
    Program ε (Outcome Error Capture) :=
  bridge.run (.custom arguments)

/-- The box that the diagnostics of a measurement give. -/
def measuredBox (input : String) (capture : Capture) : Outcome Error BoundingBox :=
  match BoundingBox.ofOutput? (capture.text .diagnostics) with
  | some box => .ok box
  | none => .error (.boundingBoxNotFound (.ofString input))

/-- Measures the marked area of a file. -/
def boundingBox (bridge : Bridge ε) (input : String) :
    Program ε (Outcome Error BoundingBox) := do
  return (← bridge.run ⟨input, "", .measure⟩).bind (measuredBox input)

end EpsBridge.Bridge
