import EpsBridge.Json.Record
import EpsBridge.Text.Blank

/-!
# Conversion requests and engine arguments

A request says what to do with one input.  Its arguments are, in order: the
three flags that every managed run has, the device, what the device needs, the
output, and the input.  A custom request passes its arguments on as they are.

The name under which an engine is run is no argument; it is put in front when
the engine starts.
-/

namespace EpsBridge

/-- What an engine renders to. -/
inductive Device where
  /-- Raster images with 24 bits of colour. -/
  | png16m
  | jpeg
  | pdfWrite
  /-- Measures the marked area and writes no file. -/
  | bbox
deriving DecidableEq, Repr

namespace Device

/-- The name of a device on the command line of an engine. -/
def name : Device → String
  | png16m => "png16m"
  | jpeg => "jpeg"
  | pdfWrite => "pdfwrite"
  | bbox => "bbox"

/-- The flag that selects a device. -/
def flag (device : Device) : String :=
  "-sDEVICE=" ++ device.name

/-- The names of the devices in records. -/
def choices : List (String × Device) :=
  [("Png16m", png16m), ("Jpeg", jpeg), ("PdfWrite", pdfWrite), ("BBox", bbox)]

/-- The device as a record. -/
def toJson : Device → Json
  | png16m => .string "Png16m"
  | jpeg => .string "Jpeg"
  | pdfWrite => .string "PdfWrite"
  | bbox => .string "BBox"

/-- Reads a record. -/
def ofJson? (value : Json) : Option Device :=
  value.unitChoice? choices

end Device

/-- A resolution in dots per inch, which is never zero. -/
structure Resolution where
  dpi : UInt32
  positive : 0 < dpi
deriving DecidableEq, Repr

namespace Resolution

/-- The resolution of a positive number. -/
def of? (dpi : UInt32) : Option Resolution :=
  if positive : 0 < dpi then some ⟨dpi, positive⟩ else none

/-- The flag that sets a resolution. -/
def flag (resolution : Resolution) : String :=
  "-r" ++ Decimal.ofNat resolution.dpi.toNat

/-- The resolution as a record. -/
def toJson (resolution : Resolution) : Json :=
  .ofNat resolution.dpi.toNat

/-- Reads a record. -/
def ofJson? (value : Json) : Option Resolution :=
  value.uint32?.bind of?

end Resolution

/-- What to do with an input. -/
inductive Operation where
  | toPng (resolution : Resolution)
  /-- The quality is passed on as it is. -/
  | toJpeg (resolution : Resolution) (quality : Int32)
  | toPdf
  | custom (arguments : List String)
  | measure
deriving DecidableEq, Repr

namespace Operation

/-- The operation as a record. -/
def toJson : Operation → Json
  | toPng resolution => .object [("ToPng", .object [("dpi", resolution.toJson)])]
  | toJpeg resolution quality =>
    .object [("ToJpeg",
      .object [("dpi", resolution.toJson), ("quality", .integer quality.toInt)])]
  | toPdf => .string "ToPdf"
  | custom arguments =>
    .object [("Custom", .object [("args", .array (arguments.map .string))])]
  | measure => .string "GetBoundingBox"

/-- Reads what comes with the name of an operation. -/
def ofChoice? : String → Option Json → Option Operation
  | "ToPng", some content => do
    match ← content.fields? ["dpi"] with
    | [dpi] => return .toPng (← Json.required? Resolution.ofJson? dpi)
    | _ => none
  | "ToJpeg", some content => do
    match ← content.fields? ["dpi", "quality"] with
    | [dpi, quality] =>
      return .toJpeg (← Json.required? Resolution.ofJson? dpi)
        (← Json.required? Json.int32? quality)
    | _ => none
  | "Custom", some content => do
    match ← content.fields? ["args"] with
    | [arguments] => return .custom (← Json.required? (Json.listOf? Json.string?) arguments)
    | _ => none
  | "ToPdf", none => some .toPdf
  | "ToPdf", some .null => some .toPdf
  | "GetBoundingBox", none => some .measure
  | "GetBoundingBox", some .null => some .measure
  | _, _ => none

/-- Reads a record. -/
def ofJson? (value : Json) : Option Operation :=
  value.choice?.bind fun (name, content) => ofChoice? name content

end Operation

/-- The arguments of one run of an engine. -/
structure Arguments where
  toList : List String
deriving DecidableEq, Repr, Inhabited

namespace Arguments

/-- The arguments with blanks between them. -/
def joined (arguments : Arguments) : String :=
  String.intercalate " " arguments.toList

/-- The position of the first argument that begins with a text. -/
def positionOf? (beginning : String) (arguments : Arguments) : Option Nat :=
  arguments.toList.findIdx? fun argument =>
    (Text.after? beginning.toList argument.toList).isSome

/-- The arguments as a record. -/
def toJson (arguments : Arguments) : Json :=
  .array (arguments.toList.map .string)

/-- Reads a record. -/
def ofJson? (value : Json) : Option Arguments :=
  (Json.listOf? Json.string? value).map Arguments.mk

end Arguments

/-- One conversion.  A custom operation ignores both paths, a measurement the
output. -/
structure Request where
  input : String
  output : String
  operation : Operation
deriving DecidableEq, Repr

namespace Request

/-- The flags that every managed run begins with: no pause between pages, an
end after the inputs, and restricted access to files. -/
def safetyFlags : List String := ["-dNOPAUSE", "-dBATCH", "-dSAFER"]

/-- The flag that crops the output to the bounding box. -/
def cropFlag : String := "-dEPSCrop"

/-- The flag that sets the quality of lossy compression. -/
def qualityFlag (quality : Int32) : String :=
  "-dJPEGQ=" ++ Decimal.ofInt32 quality

/-- The flag that names the output. -/
def outputFlag (output : String) : String :=
  "-o" ++ output

/-- What every run on a device begins with. -/
def managed (device : Device) : List String :=
  safetyFlags ++ [device.flag]

/-- The arguments of a request. -/
def arguments (request : Request) : Arguments :=
  match request.operation with
  | .toPng resolution =>
    ⟨managed .png16m ++ [resolution.flag, outputFlag request.output, request.input]⟩
  | .toJpeg resolution quality =>
    ⟨managed .jpeg ++
      [qualityFlag quality, resolution.flag, outputFlag request.output, request.input]⟩
  | .toPdf => ⟨managed .pdfWrite ++ [cropFlag, outputFlag request.output, request.input]⟩
  | .custom arguments => ⟨arguments⟩
  | .measure => ⟨managed .bbox ++ [request.input]⟩

/-- A request to pass arguments on. -/
def custom (arguments : List String) : Request :=
  ⟨"", "", .custom arguments⟩

/-- The request as a record. -/
def toJson (request : Request) : Json :=
  .object [("input", .string request.input), ("output", .string request.output),
    ("operation", request.operation.toJson)]

/-- Reads a record. -/
def ofJson? (value : Json) : Option Request := do
  match ← value.fields? ["input", "output", "operation"] with
  | [input, output, operation] =>
    return ⟨← Json.required? Json.string? input, ← Json.required? Json.string? output,
      ← Json.required? Operation.ofJson? operation⟩
  | _ => none

end Request

end EpsBridge
