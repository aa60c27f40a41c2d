import EpsBridge.Error
import EpsBridge.Number.Binary32
import EpsBridge.Outcome

/-!
# Configuration

Defaults for what a caller leaves open, and where to find the engine.  A
configuration is checked when it is built: a resolution is positive, and the
bounds of previews are in order.  One that is put together without the check may
have bounds that no resolution satisfies; asking such a configuration for a
preview resolution panics.
-/

namespace EpsBridge

/-- The configuration of a bridge. -/
structure Config where
  /-- The engine library to use instead of searching for one. -/
  libraryPath : Option Path
  /-- The resolution where none is asked for. -/
  defaultDpi : UInt32
  /-- The JPEG quality where none is asked for. -/
  jpegQuality : Int32
  /-- The least resolution of a preview. -/
  previewMinDpi : UInt32
  /-- The largest resolution of a preview. -/
  previewMaxDpi : UInt32
deriving DecidableEq, Repr

namespace Config

/-- The configuration of a caller who asks for nothing. -/
def default : Config := ⟨none, 150, 90, 72, 600⟩

/-- Checks a configuration. -/
def build (config : Config) : Except Error Config :=
  if config.defaultDpi = 0 then
    .error (.invalidConfig "default DPI must be positive")
  else if config.previewMinDpi = 0 || config.previewMaxDpi < config.previewMinDpi then
    .error (.invalidConfig ("preview DPI range must be 1 ≤ min ≤ max, got " ++
      Decimal.ofNat config.previewMinDpi.toNat ++ "–" ++
      Decimal.ofNat config.previewMaxDpi.toNat))
  else .ok config

/-- The resolution of a scale of one. -/
def pointsPerInch : Nat := 72

/-- What bounds in the wrong order end with. -/
def invertedBounds (least largest : UInt32) : String :=
  "min > max. min = " ++ Decimal.ofNat least.toNat ++ ", max = " ++ Decimal.ofNat largest.toNat

/-- Brings a number within two bounds. -/
def clamp (value least largest : UInt32) : Outcome Error UInt32 :=
  if largest < least then .panic (invertedBounds least largest)
  else if value < least then .ok least
  else if largest < value then .ok largest
  else .ok value

/-- The resolution of a preview at a scale, given by its bits, within the
bounds of the configuration. -/
def previewDpi (config : Config) (scale : UInt32) : Outcome Error UInt32 :=
  clamp (Binary32.scaledInteger pointsPerInch scale) config.previewMinDpi config.previewMaxDpi

/-! ## Records -/

/-- The configuration as a record, if its path can be written. -/
def toJson? (config : Config) : Option Json := do
  let path ← match config.libraryPath with
    | none => some .null
    | some path => path.toJson?
  return .object [("library_path", path), ("default_dpi", .ofNat config.defaultDpi.toNat),
    ("jpeg_quality", .integer config.jpegQuality.toInt),
    ("preview_min_dpi", .ofNat config.previewMinDpi.toNat),
    ("preview_max_dpi", .ofNat config.previewMaxDpi.toNat)]

/-- Reads a record. -/
def ofJson? (value : Json) : Option Config := do
  match ← value.fields? ["library_path", "default_dpi", "jpeg_quality", "preview_min_dpi",
    "preview_max_dpi"] with
  | [path, dpi, quality, least, largest] =>
    return ⟨← Json.optional? Path.ofJson? path, ← Json.required? Json.uint32? dpi,
      ← Json.required? Json.int32? quality, ← Json.required? Json.uint32? least,
      ← Json.required? Json.uint32? largest⟩
  | _ => none

end Config

end EpsBridge
