import EpsBridge.Bridge.Convert
import EpsBridge.Bridge.Load

/-!
# Foreign calls

Callers in other languages pass pointers and get back a truth value or a
pointer.  A call that fails, for whatever reason, gives its fallback and leaves
the number of the error for the thread that made it; a call that succeeds leaves
zero.  Arguments are checked before anything else happens.

The calls share one bridge.  It is loaded when it is first needed, and a load
that fails is tried again by the next call.
-/

namespace EpsBridge.Foreign

open Program

variable {ε α : Type}

/-- A pointer to bytes that end in front of a zero byte, or no pointer. -/
abbrev Text := Option (List UInt8)

/-- A pointer to a number of texts, or no pointer. -/
inductive TextArray where
  | items (texts : List Text)
  | null (count : Nat)
deriving DecidableEq, Repr

/-! ## Arguments -/

/-- The text of an argument. -/
def textArgument (index : Nat) : Text → Except Error String
  | none => .error (.invalidArgument index "null pointer")
  | some bytes =>
    match Utf8.decodeExactly? bytes with
    | some text => .ok text
    | none =>
      .error (.invalidArgument index
        ("not valid UTF-8: " ++ (Utf8.DecodeError.ofBytes bytes).message))

/-- The resolution of an argument. -/
def dpiArgument (index : Nat) (dpi : Int32) : Except Error UInt32 :=
  if 0 < dpi then .ok (UInt32.ofNat dpi.toInt.toNat)
  else .error (.invalidArgument index ("dpi must be positive, got " ++ Decimal.ofInt32 dpi))

/-- The texts of an array. -/
def arrayArgument : TextArray → Except Error (List String)
  | .null 0 => .ok []
  | .null (_ + 1) => .error (.invalidArgument 0 "null argv with non-zero argc")
  | .items texts => texts.zipIdx.mapM fun (text, index) => textArgument index text

/-! ## The shared bridge -/

/-- Puts a bridge into the slot. -/
def install (bridge : Bridge ε) : Program ε Unit := do
  perform .lockSlot
  perform (.fillSlot bridge)
  perform .unlockSlot

/-- The bridge in the slot; an empty slot is filled first. -/
def slotOrLoad : Program ε (Except Error (Bridge ε)) := do
  match ← perform .readSlot with
  | some bridge => return .ok bridge
  | none =>
    match ← Bridge.load .default with
    | .ok bridge =>
      perform (.fillSlot bridge)
      return .ok bridge
    | .error error => return .error error

/-- The bridge that calls share. -/
def sharedBridge : Program ε (Except Error (Bridge ε)) := do
  perform .lockSlot
  let result ← slotOrLoad
  perform .unlockSlot
  return result

/-- Does something with arguments, if they are good, and the shared bridge. -/
def withBridge (arguments : Except Error α) {β : Type}
    (work : α → Bridge ε → Program ε (Outcome Error β)) : Program ε (Outcome Error β) :=
  match arguments with
  | .error error => return .error error
  | .ok arguments => do
    match ← sharedBridge with
    | .ok bridge => work arguments bridge
    | .error error => return .error error

/-- The number that an outcome leaves. -/
def errorNumber : Outcome Error α → Nat
  | .ok _ => 0
  | .error error => error.kind.number
  | .panic _ => Error.Kind.other.number

/-- The value of an outcome, or a fallback. -/
def valueOr (fallback : α) : Outcome Error α → α
  | .ok value => value
  | _ => fallback

/-- Makes a call: leaves the number of its outcome and gives its value or the
fallback. -/
def guarded (fallback : α) (work : Program ε (Outcome Error α)) : Program ε α := do
  let outcome ← work
  perform (.writeLastError (errorNumber outcome))
  return valueOr fallback outcome

/-! ## Calls -/

/-- Binds a library and puts a bridge over it into the slot. -/
def loadInto (path : Option Path) : Program ε (Outcome Error Bool) := do
  match ← Bridge.load { Config.default with libraryPath := path } with
  | .error error => return .error error
  | .ok bridge =>
    install bridge
    return .ok true

/-- Binds the library at a path, or searches for one where there is no path. -/
def init (path : Text) : Program ε Bool :=
  guarded false <|
    match path with
    | none => loadInto none
    | some bytes =>
      match textArgument 0 (some bytes) with
      | .error error => return .error error
      | .ok text => loadInto (some (.ofString text))

/-- Whether there is an engine. -/
def isAvailable : Program ε Bool :=
  guarded false (withBridge (.ok ()) fun _ _ => return .ok true)

/-- The number that the last call left. -/
def lastError : Program ε Nat := perform .readLastError

/-- The version of the engine, or no pointer. -/
def version : Program ε (Option String) :=
  guarded none (withBridge (.ok ()) fun _ bridge => do
    return (← bridge.version).map some)

/-- Takes back a text that a call gave out. -/
def freeText (_ : Option String) : Program ε Unit := return ()

/-- Whether a conversion succeeds. -/
def succeeded {β : Type} (work : Program ε (Outcome Error β)) : Program ε (Outcome Error Bool) := do
  return (← work).map fun _ => true

/-- Renders a file to PNG. -/
def renderPng (input output : Text) (dpi : Int32) : Program ε Bool :=
  let arguments := do
    let input ← textArgument 0 input
    let output ← textArgument 1 output
    return (input, output, ← dpiArgument 2 dpi)
  guarded false (withBridge arguments fun (input, output, dpi) bridge =>
    succeeded (bridge.renderPng input output dpi))

/-- Renders a file to JPEG. -/
def renderJpeg (input output : Text) (dpi quality : Int32) : Program ε Bool :=
  let arguments := do
    let input ← textArgument 0 input
    let output ← textArgument 1 output
    return (input, output, ← dpiArgument 2 dpi)
  guarded false (withBridge arguments fun (input, output, dpi) bridge =>
    succeeded (bridge.renderJpeg input output dpi quality))

/-- Converts a file to PDF. -/
def convertPdf (input output : Text) : Program ε Bool :=
  let arguments := do return (← textArgument 0 input, ← textArgument 1 output)
  guarded false (withBridge arguments fun (input, output) bridge =>
    succeeded (bridge.convertPdf input output))

/-- Runs the engine with arguments of the caller's own. -/
def execute (arguments : TextArray) : Program ε Bool :=
  guarded false (withBridge (arrayArgument arguments) fun arguments bridge =>
    succeeded (bridge.execute arguments))

/-- What is written to a buffer of the caller's. -/
def boxArguments (input : Text) (buffer : Option (List Int32)) :
    Except Error (String × List Int32) := do
  let input ← textArgument 0 input
  match buffer with
  | none => .error (.invalidArgument 1 "null output buffer")
  | some corners => .ok (input, corners)

/-- Measures a file and writes the corners of its box to a buffer.  The second
part of the value is the buffer afterwards. -/
def boundingBox (input : Text) (buffer : Option (List Int32)) :
    Program ε (Bool × Option (List Int32)) :=
  guarded (false, buffer) (withBridge (boxArguments input buffer) fun (input, _) bridge => do
    return (← bridge.boundingBox input).map fun box => (true, some box.toList))

end EpsBridge.Foreign
