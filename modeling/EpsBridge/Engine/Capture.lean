import EpsBridge.Json.Basic
import EpsBridge.Text.Utf8

/-!
# Captured output

What an engine writes during one run is captured on two channels.  Each channel
keeps the beginning of what was written, up to the limit of the capture, and the
capture remembers whether anything was dropped.
-/

namespace EpsBridge

/-- Where an engine writes to. -/
inductive Channel where
  | output
  /-- Messages, and the result of a measurement. -/
  | diagnostics
deriving DecidableEq, Repr

/-- What was written during one run. -/
structure Capture where
  /-- The bytes that each channel keeps at most. -/
  limit : Nat
  output : ByteArray
  diagnostics : ByteArray
  /-- Whether a byte was dropped. -/
  truncated : Bool
deriving Inhabited

namespace Capture

/-- The limit of a run: eight mebibytes. -/
def defaultLimit : Nat := 8 * 1024 * 1024

/-- Nothing written yet. -/
def withLimit (limit : Nat) : Capture :=
  ⟨limit, ByteArray.empty, ByteArray.empty, false⟩

/-- Nothing written yet, under the limit of a run. -/
def empty : Capture := withLimit defaultLimit

/-- The bytes kept of a channel. -/
def kept (capture : Capture) : Channel → ByteArray
  | .output => capture.output
  | .diagnostics => capture.diagnostics

/-- The part of some bytes for which a channel still has room. -/
def fitting (limit : Nat) (kept bytes : ByteArray) : ByteArray :=
  bytes.extract 0 (limit - kept.size)

/-- Writes bytes to a channel. -/
def write (capture : Capture) (channel : Channel) (bytes : ByteArray) : Capture :=
  let truncated :=
    capture.truncated || capture.limit - (capture.kept channel).size < bytes.size
  match channel with
  | .output =>
    { capture with
      output := capture.output ++ fitting capture.limit capture.output bytes
      truncated }
  | .diagnostics =>
    { capture with
      diagnostics := capture.diagnostics ++ fitting capture.limit capture.diagnostics bytes
      truncated }

/-- The text of a channel. -/
def text (capture : Capture) (channel : Channel) : String :=
  Utf8.decodeArray (capture.kept channel)

/-- The capture as a record of texts. -/
def toJson (capture : Capture) : Json :=
  .object [("stdout", .string (capture.text .output)),
    ("stderr", .string (capture.text .diagnostics)), ("truncated", .bool capture.truncated)]

end Capture

end EpsBridge
