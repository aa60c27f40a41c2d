import EpsBridge.Json.Record
import EpsBridge.LibraryError
import EpsBridge.Text.Blank

/-!
# Errors

Every failure of the bridge is one of these causes.  Their kinds are what a
caller has to tell apart: no engine at all, an engine that does not start, an
engine that fails, an output without a box, a bad argument, and the rest.
-/

namespace EpsBridge

/-- Why an operation failed. -/
inductive Error where
  /-- No engine library could be bound. -/
  | engineUnavailable (reason : String)
  /-- The engine gave no instance. -/
  | instanceCreation (code : Int32)
  /-- An instance could not be configured. -/
  | instanceSetup (call : String) (code : Int32)
  /-- An argument cannot be passed to the engine. -/
  | invalidArgument (index : Nat) (reason : String)
  /-- The engine ran and ended with a status that is no success. -/
  | execution (code : Int32) (diagnostics : String)
  /-- The engine would not say its revision. -/
  | revision (detail : String)
  /-- A measurement printed no box. -/
  | boundingBoxNotFound (path : Path)
  | fileNotFound (path : Path)
  /-- A file does not begin like an EPS file; its first bytes are kept. -/
  | notAnEps (path : Path) (magic : List UInt8)
  | readFailed (path : Path) (cause : FileError)
  | outputWriteFailed (path : Path) (cause : FileError)
  /-- A rendered preview is no image. -/
  | decodeFailed (path : Path) (detail : String)
  | invalidConfig (detail : String)
  | internal (detail : String)
deriving DecidableEq, Repr

namespace Error

/-- The error of a library that cannot be used. -/
def ofLibrary (error : LibraryError) : Error :=
  .engineUnavailable error.message

/-! ## Kinds -/

/-- The coarse class of an error. -/
inductive Kind where
  | unavailable
  | initialization
  | execution
  | bboxParse
  | invalidArgument
  | other
deriving DecidableEq, Repr

namespace Kind

/-- The number of a kind for callers that see only numbers. -/
def number : Kind → Nat
  | unavailable => 1
  | initialization => 2
  | execution => 3
  | bboxParse => 4
  | invalidArgument => 5
  | other => 6

/-- The name of a kind. -/
def name : Kind → String
  | unavailable => "Unavailable"
  | initialization => "Initialization"
  | execution => "Execution"
  | bboxParse => "BboxParse"
  | invalidArgument => "InvalidArgument"
  | other => "Other"

/-- The kinds by their names. -/
def choices : List (String × Kind) :=
  [unavailable, initialization, execution, bboxParse, invalidArgument, other].map
    fun kind => (kind.name, kind)

/-- The kind as a record. -/
def toJson (kind : Kind) : Json := .string kind.name

/-- Reads a record. -/
def ofJson? (value : Json) : Option Kind := value.unitChoice? choices

end Kind

/-- The kind of an error. -/
def kind : Error → Kind
  | engineUnavailable _ => .unavailable
  | instanceCreation _ | instanceSetup _ _ => .initialization
  | execution _ _ | revision _ => .execution
  | boundingBoxNotFound _ => .bboxParse
  | invalidArgument _ _ | invalidConfig _ => .invalidArgument
  | fileNotFound _ | notAnEps _ _ | readFailed _ _ | outputWriteFailed _ _
  | decodeFailed _ _ | internal _ => .other

/-! ## Messages -/

/-- The last line of diagnostics that is not blank, trimmed. -/
def lastLine? (diagnostics : String) : Option String :=
  (((Text.lines diagnostics.toList).map Text.trim).reverse.find? (fun line => !line.isEmpty)).map
    String.ofList

/-- The numbers of some bytes as a list. -/
def byteNumbers (bytes : List UInt8) : String :=
  "[" ++ String.intercalate ", " (bytes.map fun byte => Decimal.ofNat byte.toNat) ++ "]"

/-- How to get an engine. -/
def installationAdvice : String :=
  "Install Ghostscript (libgs) or point GS_LIB_PATH at the shared library.\n" ++
  "• Debian/Ubuntu: apt install libgs10\n" ++
  "• macOS:         brew install ghostscript\n"

/-- The text of an error. -/
def message : Error → String
  | engineUnavailable reason =>
    "Ghostscript engine unavailable: " ++ reason ++ "\n\n" ++ installationAdvice
  | instanceCreation code =>
    "Failed to create Ghostscript instance (code " ++ Decimal.ofInt32 code ++ ")"
  | instanceSetup call code =>
    "Failed to configure Ghostscript instance: " ++ call ++ " returned " ++ Decimal.ofInt32 code
  | invalidArgument index reason =>
    "Invalid argument #" ++ Decimal.ofNat index ++ ": " ++ reason
  | execution code diagnostics =>
    "Ghostscript failed with status " ++ Decimal.ofInt32 code ++
      (match lastLine? diagnostics with
        | some line => ": " ++ line
        | none => "")
  | revision detail => "Ghostscript revision query failed: " ++ detail
  | boundingBoxNotFound path =>
    "No %%BoundingBox found in Ghostscript output for '" ++ path.display ++ "'"
  | fileNotFound path => "Input file not found: '" ++ path.display ++ "'"
  | notAnEps path magic =>
    "File is not an EPS/PostScript document: '" ++ path.display ++ "'\nFirst bytes: " ++
      byteNumbers magic
  | readFailed path cause => "Failed to read '" ++ path.display ++ "': " ++ cause.message
  | outputWriteFailed path cause =>
    "Failed to write output file '" ++ path.display ++ "': " ++ cause.message
  | decodeFailed path detail =>
    "Failed to decode rendered image '" ++ path.display ++ "': " ++ detail
  | invalidConfig detail => "Invalid configuration: " ++ detail
  | internal detail => "Internal error: " ++ detail

/-- The texts of an error and of the causes beneath it. -/
def chain (error : Error) : List String :=
  match error with
  | readFailed _ cause | outputWriteFailed _ cause => [error.message, cause.message]
  | _ => [error.message]

end Error

end EpsBridge
