import EpsBridge.Engine.Basic

/-!
# Engine libraries

A library offers the calls behind an engine.  Starting an instance takes three of
them: its arguments are declared to be UTF-8, handlers for its output are
attached, and it is run.  Handlers are attached only while an instance starts or
stops, so that a library is asked to let go of the capture before it is handed
back; a library may refuse, and what it then does with its handlers is its own
affair.
-/

namespace EpsBridge

/-- The calls of a library that change a state `σ`.  Negative codes are
failures. -/
structure Library (σ : Type) where
  /-- The revision, or the code with which the query failed. -/
  revision : σ → Except Int32 Revision × σ
  /-- A code, and an instance unless there is none. -/
  newInstance : σ → (Int32 × Option Handle) × σ
  /-- Declares the encoding of arguments. -/
  setArgumentEncoding : Handle → Nat → σ → Int32 × σ
  /-- Attaches handlers for the output of an instance, or detaches them. -/
  setHandlers : Handle → Bool → σ → Int32 × σ
  /-- Runs an instance; what its handlers are given goes to the capture. -/
  run : Handle → List String → Capture → σ → (Int32 × Capture) × σ
  /-- Ends an instance that ran. -/
  exit : Handle → Capture → σ → (Int32 × Capture) × σ
  deleteInstance : Handle → σ → σ

namespace Library

variable {σ : Type}

/-- The encoding of arguments that are UTF-8. -/
def utf8Encoding : Nat := 1

/-- The code of a library that gives no instance and no reason. -/
def noInstance : Int32 := -1

/-- Makes an instance.  One that is missing is a failure whatever the code. -/
def create (library : Library σ) (state : σ) : Outcome Int32 Handle × σ :=
  match library.newInstance state with
  | ((code, handle?), state) =>
    if code < 0 then (.error code, state)
    else
      match handle? with
      | some handle => (.ok handle, state)
      | none => (.error noInstance, state)

/-- Declares the encoding, attaches handlers, runs the instance and detaches the
handlers. -/
def start (library : Library σ) (handle : Handle) (argv : List String) (capture : Capture)
    (state : σ) : (Outcome Error Int32 × Capture) × σ :=
  let (code, state) := library.setArgumentEncoding handle utf8Encoding state
  if code < 0 then ((.error (.instanceSetup "gsapi_set_arg_encoding" code), capture), state)
  else
    let (code, state) := library.setHandlers handle true state
    if code < 0 then
      ((.error (.instanceSetup "gsapi_set_stdio_with_handle" code), capture), state)
    else
      let ((status, capture), state) := library.run handle argv capture state
      let (_, state) := library.setHandlers handle false state
      ((.ok status, capture), state)

/-- Attaches handlers, ends the instance, and detaches the handlers if they were
attached. -/
def stop (library : Library σ) (handle : Handle) (capture : Capture) (state : σ) :
    (Outcome Empty Int32 × Capture) × σ :=
  let (code, state) := library.setHandlers handle true state
  let ((status, capture), state) := library.exit handle capture state
  if code < 0 then ((.ok status, capture), state)
  else
    let (_, state) := library.setHandlers handle false state
    ((.ok status, capture), state)

/-- The engine of a library. -/
def engine (library : Library σ) : Engine σ where
  revision state :=
    match library.revision state with
    | (.ok revision, state) => (.ok revision, state)
    | (.error code, state) => (.error (.revision (LibraryError.revision code).message), state)
  create := library.create
  start := library.start
  stop := library.stop
  discard handle state := (.ok (), library.deleteInstance handle state)

end Library

end EpsBridge
