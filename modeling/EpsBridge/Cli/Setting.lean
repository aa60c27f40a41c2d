import EpsBridge.Environment
import EpsBridge.Format
import EpsBridge.Number.Decimal
import EpsBridge.Path

/-!
# Settings of the command line

What can be set by options, how the options are spelled, which variables of the
environment stand in for them, and how their values are read.
-/

namespace EpsBridge.Cli

/-- What an option sets or asks for. -/
inductive Key where
  | library
  | json
  | noProgress
  | verbose
  | quiet
  | output
  | noOverwrite
  | dpi
  | quality
  | directory
  | format
  | help
  | version
deriving DecidableEq, Repr

/-- The value of a setting. -/
inductive Value where
  | flag (on : Bool)
  | path (path : Path)
  | dpi (dpi : UInt32)
  | quality (quality : Int32)
  | format (format : Format)
deriving DecidableEq, Repr

namespace Key

/-- All keys. -/
def all : List Key :=
  [library, json, noProgress, verbose, quiet, output, noOverwrite, dpi, quality, directory,
    format, help, version]

/-- The spelling of an option behind two dashes. -/
def long : Key → String
  | library => "lib"
  | json => "json"
  | noProgress => "no-progress"
  | verbose => "verbose"
  | quiet => "quiet"
  | output => "output"
  | noOverwrite => "no-overwrite"
  | dpi => "dpi"
  | quality => "quality"
  | directory => "out-dir"
  | format => "format"
  | help => "help"
  | version => "version"

/-- The spelling of an option behind one dash, if it has one. -/
def short? : Key → Option Char
  | verbose => some 'v'
  | quiet => some 'q'
  | output => some 'o'
  | directory => some 'd'
  | format => some 'f'
  | help => some 'h'
  | version => some 'V'
  | library | json | noProgress | noOverwrite | dpi | quality => none

/-- The variable that stands in for an option, if there is one. -/
def variableName? : Key → Option String
  | library => some "GSBRIDGE_LIB"
  | json => some "GSBRIDGE_JSON"
  | noProgress => some "GSBRIDGE_NO_PROGRESS"
  | verbose => some "GSBRIDGE_VERBOSE"
  | quiet => some "GSBRIDGE_QUIET"
  | dpi => some "GSBRIDGE_DPI"
  | quality => some "GSBRIDGE_QUALITY"
  | directory => some "GSBRIDGE_OUT_DIR"
  | output | noOverwrite | format | help | version => none

/-- Whether an option is followed by a value. -/
def takesValue : Key → Bool
  | library | output | dpi | quality | directory | format => true
  | json | noProgress | verbose | quiet | noOverwrite | help | version => false

/-- Reads a path, which is never empty. -/
def readPath? (bytes : List UInt8) : Option Value :=
  if bytes.isEmpty then none else some (.path ⟨bytes⟩)

/-- Reads a resolution, which is positive.  A sign is allowed. -/
def readDpi? (bytes : List UInt8) : Option Value := do
  let text ← Utf8.decodeExactly? bytes
  let dpi ← (Decimal.readInteger? text.toList).bind Decimal.uint32?
  if dpi = 0 then none else some (.dpi dpi)

/-- Reads a quality.  A sign is allowed. -/
def readQuality? (bytes : List UInt8) : Option Value := do
  let text ← Utf8.decodeExactly? bytes
  return .quality (← Decimal.readInt32? text.toList)

/-- The spellings of the formats. -/
def formats : List (String × Format) :=
  [("png", .png), ("jpeg", .jpeg), ("jpg", .jpeg), ("pdf", .pdf)]

/-- Reads a format. -/
def readFormat? (bytes : List UInt8) : Option Value := do
  let text ← Utf8.decodeExactly? bytes
  return .format (← formats.lookup text)

/-- Reads the value of a variable for a flag. -/
def readFlag? (bytes : List UInt8) : Option Value :=
  match Utf8.decodeExactly? bytes with
  | some "true" => some (.flag true)
  | some "false" => some (.flag false)
  | _ => none

/-- Reads a value for an option, from the command line or a variable.  Flags have
values only in variables. -/
def readValue? (key : Key) (bytes : List UInt8) : Option Value :=
  match key with
  | library | output | directory => readPath? bytes
  | dpi => readDpi? bytes
  | quality => readQuality? bytes
  | format => readFormat? bytes
  | json | noProgress | verbose | quiet | noOverwrite | help | version => readFlag? bytes

end Key

/-- Settings with their values. -/
abbrev Settings := List (Key × Value)

namespace Settings

/-- Whether something is set. -/
def has (settings : Settings) (key : Key) : Bool :=
  settings.any fun setting => setting.1 = key

/-- Whether a flag is on. -/
def isOn (settings : Settings) (key : Key) : Bool :=
  settings.lookup key = some (.flag true)

/-- The path of a setting. -/
def path? (settings : Settings) (key : Key) : Option Path :=
  match settings.lookup key with
  | some (.path path) => some path
  | _ => none

/-- The resolution that is set. -/
def dpi? (settings : Settings) : Option UInt32 :=
  match settings.lookup .dpi with
  | some (.dpi dpi) => some dpi
  | _ => none

/-- The quality that is set. -/
def quality? (settings : Settings) : Option Int32 :=
  match settings.lookup .quality with
  | some (.quality quality) => some quality
  | _ => none

/-- The format that is set. -/
def format? (settings : Settings) : Option Format :=
  match settings.lookup .format with
  | some (.format format) => some format
  | _ => none

end Settings

end EpsBridge.Cli
