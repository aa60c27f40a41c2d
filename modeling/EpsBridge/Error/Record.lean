import EpsBridge.Error

/-!
# Records of errors

An error as a record, for callers that want to tell errors apart without reading
their messages: its name, its kind by name and by number, its message, and what
the error carries.  Paths are written with replacements where they are not UTF-8.
-/

namespace EpsBridge

namespace LibraryError

/-- The name of an error. -/
def name : LibraryError → String
  | notFound _ => "NotFound"
  | bind _ _ => "Bind"
  | missingSymbol _ _ _ => "MissingSymbol"
  | cacheDirectory _ => "CacheDir"
  | revision _ => "Revision"

/-- The error as a record. -/
def toJson (error : LibraryError) : Json :=
  .object [("error", .string error.name), ("message", .string error.message)]

end LibraryError

namespace Error

/-- The name of an error. -/
def name : Error → String
  | engineUnavailable _ => "EngineUnavailable"
  | instanceCreation _ => "InstanceCreation"
  | instanceSetup _ _ => "InstanceSetup"
  | invalidArgument _ _ => "InvalidArgument"
  | execution _ _ => "Execution"
  | revision _ => "Revision"
  | boundingBoxNotFound _ => "BoundingBoxNotFound"
  | fileNotFound _ => "FileNotFound"
  | notAnEps _ _ => "NotAnEps"
  | readFailed _ _ => "ReadFailed"
  | outputWriteFailed _ _ => "OutputWriteFailed"
  | decodeFailed _ _ => "DecodeFailed"
  | invalidConfig _ => "InvalidConfig"
  | internal _ => "Internal"

/-- What an error carries besides its message. -/
def details : Error → List (String × Json)
  | engineUnavailable reason => [("reason", .string reason)]
  | instanceCreation code => [("code", .integer code.toInt)]
  | instanceSetup call code => [("what", .string call), ("code", .integer code.toInt)]
  | invalidArgument index reason => [("index", .ofNat index), ("reason", .string reason)]
  | execution code diagnostics =>
    [("code", .integer code.toInt), ("stderr", .string diagnostics)]
  | notAnEps path magic =>
    [("path", .string path.display),
      ("magic", .array (magic.map fun byte => .ofNat byte.toNat))]
  | boundingBoxNotFound path | fileNotFound path | readFailed path _
  | outputWriteFailed path _ | decodeFailed path _ => [("path", .string path.display)]
  | revision _ | invalidConfig _ | internal _ => []

/-- The error as a record. -/
def toJson (error : Error) : Json :=
  .object ([("error", .string error.name), ("kind", error.kind.toJson),
    ("kind_number", .ofNat error.kind.number), ("message", .string error.message)] ++
      error.details)

end Error

end EpsBridge
