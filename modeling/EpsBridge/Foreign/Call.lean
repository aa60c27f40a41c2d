import EpsBridge.Foreign

/-!
# Foreign calls as data

A call with its arguments, and what it gives back.  As all calls have values of one type, calls
of different kinds can be made by different threads of one process.
-/

namespace EpsBridge.Foreign

/-- What a call gives back. -/
inductive Value where
  | nothing
  | truth (value : Bool)
  | number (value : Nat)
  | text (value : Option String)
  /-- Whether a box was found, and the caller's buffer afterwards. -/
  | box (found : Bool) (buffer : Option (List Int32))
deriving DecidableEq, Repr

/-- A call. -/
inductive Call (ε : Type) where
  | install (bridge : Bridge ε)
  | init (path : Text)
  | isAvailable
  | lastError
  | version
  | freeText (text : Option String)
  | renderPng (input output : Text) (dpi : Int32)
  | renderJpeg (input output : Text) (dpi quality : Int32)
  | convertPdf (input output : Text)
  | execute (arguments : TextArray)
  | boundingBox (input : Text) (buffer : Option (List Int32))

namespace Call

variable {ε : Type}

/-- What a call does. -/
def program : Call ε → Program ε Value
  | install bridge => (fun _ => .nothing) <$> Foreign.install bridge
  | init path => .truth <$> Foreign.init path
  | isAvailable => .truth <$> Foreign.isAvailable
  | lastError => .number <$> Foreign.lastError
  | version => .text <$> Foreign.version
  | freeText text => (fun _ => .nothing) <$> Foreign.freeText text
  | renderPng input output dpi => .truth <$> Foreign.renderPng input output dpi
  | renderJpeg input output dpi quality => .truth <$> Foreign.renderJpeg input output dpi quality
  | convertPdf input output => .truth <$> Foreign.convertPdf input output
  | execute arguments => .truth <$> Foreign.execute arguments
  | boundingBox input buffer =>
    (fun (found, buffer) => .box found buffer) <$> Foreign.boundingBox input buffer

end Call

end EpsBridge.Foreign
