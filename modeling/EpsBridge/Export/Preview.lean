import EpsBridge.Export.File

/-!
# Previews

A preview renders a file at a scale, within the bounds of the configuration, and
decodes the image.  It goes by way of a temporary file, which is gone when the
preview is done, however it ended.

What decodes an image is given: it makes an image of the content of a file, says
why it does not, or panics.
-/

namespace EpsBridge.Export

open Program

variable {ε ι : Type}

/-- What the names of the temporary files of previews begin with. -/
def previewBeginning : String := "gsbridge-preview-"

/-- Decodes the image in a file. -/
def decodeFile (decode : ByteArray → Outcome String ι) (path : Path) :
    Program ε (Outcome Error ι) := do
  match ← perform (.readFile path) with
  | .error error => return .error (.decodeFailed path error.message)
  | .ok content =>
    match decode content with
    | .ok image => return .ok image
    | .error detail => return .error (.decodeFailed path detail)
    | .panic message => return .panic message

/-- Renders a file to a temporary one and decodes it. -/
def renderAndDecode (decode : ByteArray → Outcome String ι) (bridge : Bridge ε)
    (input temporary : Path) (dpi : UInt32) : Program ε (Outcome Error ι) := do
  match ← renderTo bridge input temporary .png ⟨some dpi, none, true⟩ with
  | .ok () => decodeFile decode temporary
  | .error error => return .error error
  | .panic message => return .panic message

/-- The work of a preview at a scale that is given by its bits.  The directory is that of the
system for temporary files, and is named where none can be created. -/
def previewWork (decode : ByteArray → Outcome String ι) (directory : Path) (bridge : Bridge ε)
    (input : Path) (scale : UInt32) : Program ε (Outcome Error ι) :=
  match bridge.config.previewDpi scale with
  | .error error => return .error error
  | .panic message => return .panic message
  | .ok dpi => do
    match ← perform (.createTemporary .system previewBeginning ".png") with
    | .error error => return .error (.outputWriteFailed directory error)
    | .ok temporary =>
      let outcome ← renderAndDecode decode bridge input temporary dpi
      perform (.removeFile temporary)
      return outcome

/-- Renders a file at a scale and decodes the image. -/
def renderPreview (decode : ByteArray → Outcome String ι) (directory : Path) (bridge : Bridge ε)
    (input : Path) (scale : UInt32) : Program ε (Except Error ι) := do
  return (← previewWork decode directory bridge input scale).recover (workerError "Preview")

end EpsBridge.Export
