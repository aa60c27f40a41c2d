import EpsBridge.Error

/-!
# Export formats
-/

namespace EpsBridge

/-- What a file is exported to. -/
inductive Format where
  | png
  | jpeg
  | pdf
deriving DecidableEq, Repr

namespace Format

/-- The extension of files of a format. -/
def extension : Format → String
  | png => "png"
  | jpeg => "jpg"
  | pdf => "pdf"

/-- The media type of a format. -/
def mimeType : Format → String
  | png => "image/png"
  | jpeg => "image/jpeg"
  | pdf => "application/pdf"

/-- The name of a format in messages. -/
def display : Format → String
  | png => "PNG"
  | jpeg => "JPEG"
  | pdf => "PDF"

/-- The name of a format in records. -/
def name : Format → String
  | png => "png"
  | jpeg => "jpeg"
  | pdf => "pdf"

/-- The format of an extension in any mixture of ASCII cases. -/
def ofExtension? (extension : String) : Option Format :=
  match String.ofList (extension.toList.map Char.toLower) with
  | "png" => some png
  | "jpg" | "jpeg" => some jpeg
  | "pdf" => some pdf
  | _ => none

/-- The format of an extension, or an error that names it. -/
def parse (text : String) : Except Error Format :=
  match ofExtension? text with
  | some format => .ok format
  | none => .error (.invalidConfig ("unknown export format '" ++ text ++ "'"))

/-- The formats by their names. -/
def choices : List (String × Format) :=
  [png, jpeg, pdf].map fun format => (format.name, format)

/-- The format as a record. -/
def toJson (format : Format) : Json := .string format.name

/-- Reads a record. -/
def ofJson? (value : Json) : Option Format := value.unitChoice? choices

end Format

end EpsBridge
