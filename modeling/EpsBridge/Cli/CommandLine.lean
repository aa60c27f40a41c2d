import EpsBridge.Cli.Setting
import EpsBridge.Config
import EpsBridge.Export.Report

/-!
# Command lines

A command line names a command.  The options that concern every command may
stand on either side of the name, those of the command behind it.  Arguments are
read one after another by a machine that knows the scope it is in and the option
that still waits for its value.

The command that runs the engine takes everything from its first word on as it
is, and so does every command behind two dashes.  Its first word may be something
that looks like an option and is none.
-/

namespace EpsBridge.Cli

/-- The name of a command. -/
inductive CommandName where
  | version
  | png
  | jpeg
  | pdf
  | exec
  | bbox
  | inspect
  | batch
  | help
deriving DecidableEq, Repr

namespace CommandName

/-- How a command is spelled. -/
def spelling : CommandName → String
  | version => "version"
  | png => "png"
  | jpeg => "jpeg"
  | pdf => "pdf"
  | exec => "exec"
  | bbox => "bbox"
  | inspect => "inspect"
  | batch => "batch"
  | help => "help"

/-- All commands. -/
def all : List CommandName := [version, png, jpeg, pdf, exec, bbox, inspect, batch, help]

/-- The command of a spelling. -/
def ofSpelling? (bytes : List UInt8) : Option CommandName :=
  (Utf8.decodeExactly? bytes).bind fun text => all.find? fun name => name.spelling = text

/-- The options that concern every command. -/
def sharedKeys : List Key := [.library, .json, .noProgress, .verbose, .quiet]

/-- The options of a command alone. -/
def ownKeys : CommandName → List Key
  | version | exec | bbox | inspect | help => []
  | png => [.output, .noOverwrite, .dpi]
  | jpeg => [.output, .noOverwrite, .dpi, .quality]
  | pdf => [.output, .noOverwrite]
  | batch => [.directory, .format, .dpi, .quality, .noOverwrite]

/-- The number of words that a command takes, if there is a limit. -/
def wordLimit? : CommandName → Option Nat
  | version => some 0
  | png | jpeg | pdf | bbox | inspect => some 1
  | exec | batch | help => none

/-- Whether the words of a command are paths. -/
def takesPaths : CommandName → Bool
  | png | jpeg | pdf | bbox | inspect | batch => true
  | version | exec | help => false

end CommandName

/-- Why nothing is run. -/
inductive Stop where
  /-- The command line makes no sense. -/
  | usage
  /-- An explanation was asked for. -/
  | help
  /-- The version of the program was asked for. -/
  | version
deriving DecidableEq, Repr

/-- A command line that is being read. -/
structure Reading where
  command : Option CommandName
  /-- What was set in front of the command. -/
  before : Settings
  /-- What was set behind the command. -/
  behind : Settings
  /-- The words behind the command, last first. -/
  words : List (List UInt8)
  /-- The option that waits for its value. -/
  pending : Option Key
  /-- Whether all further arguments are words. -/
  verbatim : Bool

namespace Reading

/-- Nothing read yet. -/
def start : Reading := ⟨none, [], [], [], none, false⟩

/-- The options that may come next. -/
def keys (reading : Reading) : List Key :=
  match reading.command with
  | none => CommandName.sharedKeys ++ [.help, .version]
  | some name => name.ownKeys ++ CommandName.sharedKeys ++ [.help]

/-- What was set on the present side of the command. -/
def settings (reading : Reading) : Settings :=
  match reading.command with
  | none => reading.before
  | some _ => reading.behind

/-- Sets something, once. -/
def set (reading : Reading) (key : Key) (value : Value) : Except Stop Reading :=
  if reading.settings.has key then .error .usage
  else
    match reading.command with
    | none => .ok { reading with before := (key, value) :: reading.before }
    | some _ => .ok { reading with behind := (key, value) :: reading.behind }

/-- Reads a flag. -/
def takeFlag (reading : Reading) (key : Key) : Except Stop Reading :=
  if reading.pending.isSome then .error .usage
  else
    match key with
    | .help => .error .help
    | .version => .error .version
    | _ => reading.set key (.flag true)

/-- Reads an option with its value. -/
def takeValue (reading : Reading) (key : Key) (bytes : List UInt8) : Except Stop Reading :=
  if reading.pending.isSome then .error .usage
  else
    match key.readValue? bytes with
    | some value => reading.set key value
    | none => .error .usage

/-- Reads an option whose value is to follow. -/
def expect (reading : Reading) (key : Key) : Except Stop Reading :=
  if reading.pending.isSome then .error .usage
  else .ok { reading with pending := some key }

/-- Whether one more word fits. -/
def hasRoom (reading : Reading) (name : CommandName) : Bool :=
  match name.wordLimit? with
  | some limit => reading.words.length < limit
  | none => true

/-- Reads a word: a value that an option waits for, the name of the command, or
a word of the command. -/
def takeWord (reading : Reading) (bytes : List UInt8) : Except Stop Reading :=
  match reading.pending, reading.command with
  | some key, _ => { reading with pending := none }.takeValue key bytes
  | none, none =>
    match CommandName.ofSpelling? bytes with
    | some name => .ok { reading with command := some name, verbatim := name = .help }
    | none => .error .usage
  | none, some name =>
    if !reading.hasRoom name || (name.takesPaths && bytes.isEmpty) then .error .usage
    else
      .ok { reading with
        words := bytes :: reading.words
        verbatim := reading.verbatim || name = .exec }

/-- Reads what looks like an option and is none. -/
def takeUnknown (reading : Reading) (bytes : List UInt8) : Except Stop Reading :=
  if reading.command = some .exec then reading.takeWord bytes else .error .usage

/-- The byte between an option and its value. -/
def equalsSign : UInt8 := 0x3D

/-- The byte in front of options. -/
def dash : UInt8 := 0x2D

/-- Reads what stands behind two dashes. -/
def takeLong (reading : Reading) (text : List UInt8) : Except Stop Reading :=
  let attached := (text.dropWhile (· ≠ equalsSign)).tail?
  match Utf8.decodeExactly? (text.takeWhile (· ≠ equalsSign)) with
  | none => .error .usage
  | some spelling =>
    match reading.keys.find? (fun key => key.long = spelling), attached with
    | none, _ => reading.takeUnknown (dash :: dash :: text)
    | some key, some value =>
      if key.takesValue then reading.takeValue key value else .error .usage
    | some key, none => if key.takesValue then reading.expect key else reading.takeFlag key

/-- The option that a byte behind one dash spells. -/
def shortKey? (reading : Reading) (byte : UInt8) : Option Key :=
  reading.keys.find? fun key => key.short?.map Char.toNat = some byte.toNat

/-- Reads options behind one dash, of which the last may be followed by its
value. -/
def takeShorts : List UInt8 → Reading → Except Stop Reading
  | [], reading => .ok reading
  | byte :: rest, reading =>
    match reading.shortKey? byte with
    | none => .error .usage
    | some key =>
      if key.takesValue then
        if rest.isEmpty then reading.expect key
        else reading.takeValue key (if rest.head? = some equalsSign then rest.tail else rest)
      else (reading.takeFlag key).bind (takeShorts rest)

/-- Reads what stands behind one dash.  The command that runs the engine takes it
for a word unless every byte of it spells an option. -/
def takeCluster (reading : Reading) (text : List UInt8) : Except Stop Reading :=
  if reading.command = some .exec && text.any (fun byte => (reading.shortKey? byte).isNone) then
    reading.takeUnknown (dash :: text)
  else takeShorts text reading

/-- Reads two dashes alone: all that follows are words. -/
def takeEscape (reading : Reading) : Except Stop Reading :=
  if reading.pending.isSome || reading.command.isNone then .error .usage
  else .ok { reading with verbatim := true }

/-- Reads an argument. -/
def take (reading : Reading) (argument : List UInt8) : Except Stop Reading :=
  if reading.verbatim then reading.takeWord argument
  else
    match argument with
    | first :: second :: rest =>
      if first ≠ dash then reading.takeWord argument
      else if second ≠ dash then reading.takeCluster (second :: rest)
      else if rest.isEmpty then reading.takeEscape
      else reading.takeLong rest
    | _ => reading.takeWord argument

end Reading

/-! ## What was asked for -/

/-- What concerns every command. -/
structure Preferences where
  library : Option Path
  json : Bool
  noProgress : Bool
  verbose : Bool
  quiet : Bool
deriving DecidableEq, Repr

/-- What to do. -/
inductive Command where
  | version
  | convert (format : Format) (input : Path) (output : Option Path) (options : Export.Options)
  | execute (arguments : List String)
  | measure (input : Path)
  | inspect (input : Path)
  | batch (inputs : List Path) (directory : Path) (format : Format) (options : Export.Options)
deriving DecidableEq, Repr

/-- A command line that was read. -/
structure CommandLine where
  preferences : Preferences
  command : Command
deriving DecidableEq, Repr

namespace CommandLine

/-- Adds the values of variables for what is not set. -/
def withVariables (environment : Environment) (keys : List Key) (settings : Settings) :
    Except Stop Settings :=
  keys.foldlM (fun settings key =>
    match key.variableName?.bind environment.value? with
    | none => .ok settings
    | some bytes =>
      if settings.has key then .ok settings
      else
        match key.readValue? bytes with
        | some value => .ok (settings ++ [(key, value)])
        | none => .error .usage) settings

/-- What concerns every command.  An option wins over a variable, and behind the
command over in front of it. -/
def preferencesOf (before behind settings : Settings) : Preferences where
  library := behind.path? .library <|> before.path? .library <|> settings.path? .library
  json := before.isOn .json || settings.isOn .json
  noProgress := before.isOn .noProgress || settings.isOn .noProgress
  verbose := before.isOn .verbose || settings.isOn .verbose
  quiet := before.isOn .quiet || settings.isOn .quiet

/-- A conversion of one file. -/
def conversion (format : Format) (settings : Settings) (dpi : Option UInt32)
    (quality : Option Int32) : List (List UInt8) → Except Stop Command
  | [input] =>
    .ok (.convert format ⟨input⟩ (settings.path? .output)
      ⟨dpi, quality, !settings.isOn .noOverwrite⟩)
  | _ => .error .usage

/-- What to do, given the settings and the words behind the name of a command. -/
def commandOf (name : CommandName) (settings : Settings) (words : List (List UInt8)) :
    Except Stop Command :=
  let dpi := some (settings.dpi?.getD Config.default.defaultDpi)
  let quality := some (settings.quality?.getD Config.default.jpegQuality)
  match name, words with
  | .version, [] => .ok .version
  | .png, words => conversion .png settings dpi none words
  | .jpeg, words => conversion .jpeg settings dpi quality words
  | .pdf, words => conversion .pdf settings none none words
  | .exec, words =>
    match words.mapM Utf8.decodeExactly? with
    | some arguments => .ok (.execute arguments)
    | none => .error .usage
  | .bbox, [input] => .ok (.measure ⟨input⟩)
  | .inspect, [input] => .ok (.inspect ⟨input⟩)
  | .batch, input :: inputs =>
    match settings.path? .directory with
    | some directory =>
      .ok (.batch ((input :: inputs).map Path.mk) directory (settings.format?.getD .png)
        ⟨dpi, quality, !settings.isOn .noOverwrite⟩)
    | none => .error .usage
  | _, _ => .error .usage

/-- What an explanation is given for: everything, or one command. -/
def explained : List (List UInt8) → Stop
  | [] => .help
  | [word] => if (CommandName.ofSpelling? word).isSome then .help else .usage
  | _ => .usage

/-- What a command line asks for, once it has been read. -/
def ofReading (environment : Environment) (reading : Reading) : Except Stop CommandLine :=
  match reading.pending, reading.command with
  | none, some .help => .error (explained reading.words)
  | none, some name => do
    let behind ← withVariables environment (name.ownKeys ++ CommandName.sharedKeys) reading.behind
    let command ← commandOf name behind reading.words.reverse
    let before ← withVariables environment CommandName.sharedKeys reading.before
    return ⟨preferencesOf before reading.behind behind, command⟩
  | _, _ => .error .usage

/-- Reads a command line. -/
def read (environment : Environment) (arguments : List (List UInt8)) :
    Except Stop CommandLine :=
  (arguments.foldlM Reading.take Reading.start).bind (ofReading environment)

end CommandLine

end EpsBridge.Cli
