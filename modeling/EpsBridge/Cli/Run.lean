import EpsBridge.Bridge.Convert
import EpsBridge.Bridge.Load
import EpsBridge.Cli.CommandLine
import EpsBridge.Cli.Report
import EpsBridge.Eps.Inspect
import EpsBridge.Export.Batch

/-!
# Running command lines

A command line runs as a program and ends with a status: zero when everything
that was asked for was done, one when something failed, two when the command line
made no sense, and that of a panic where the run panics outside its workers.
Asking for records in place of words changes what is printed and nothing else.
-/

namespace EpsBridge.Cli

open Program

variable {ε : Type}

/-- What a command has printed when it ends, and why it failed, if it did. -/
structure Finished where
  output : String
  diagnostics : String
  failure : Option Failure
deriving DecidableEq, Repr

namespace Finished

/-- The end of a command that printed a result. -/
def printed (output : String) : Finished := ⟨output, "", none⟩

/-- The end of a command that told something. -/
def told (diagnostics : String) : Finished := ⟨"", diagnostics, none⟩

/-- The end of a command that failed and printed nothing. -/
def failed (failure : Failure) : Finished := ⟨"", "", some failure⟩

/-- The end of a command that prints a record, if it can be written. -/
def recorded : Option Json → Finished
  | some value => printed (recordText value)
  | none =>
    failed (.stated "Failed to serialise output" ["path contains invalid UTF-8 characters"])

end Finished

/-! ## Commands -/

/-- Shows the header of a file, for which no engine is needed. -/
def runInspect (preferences : Preferences) (input : Path) : Program ε Finished := do
  match Eps.ofOpened input (← perform (.openFile input)) with
  | .error error => return .failed (.ofError "Failed to inspect EPS file" error)
  | .ok metadata =>
    if preferences.json then return .recorded (some metadata.toJson)
    else return .printed (metadataText metadata)

/-- Shows the version of the engine. -/
def runVersion (preferences : Preferences) (bridge : Bridge ε) : Program ε Finished := do
  match ← bridge.revision with
  | .panic message => return .failed (.panicked message)
  | .error error => return .failed (.ofError "Failed to query Ghostscript revision" error)
  | .ok revision =>
    if preferences.json then return .recorded (some (revisionRecord revision))
    else
      let told := if preferences.quiet then "" else dim revision.product ++ "\n"
      return ⟨revision.version ++ "\n", told, none⟩

/-- The output of a conversion that names none: the input with the extension of
the format. -/
def defaultOutput (input : Path) (format : Format) : Path := input.withExtension format.extension

/-- Converts one file. -/
def runConvert (preferences : Preferences) (bridge : Bridge ε) (format : Format) (input : Path)
    (output : Option Path) (options : Export.Options) : Program ε Finished := do
  let output := output.getD (defaultOutput input format)
  if output.leadsLike input then
    return .failed (.stated ("Output would overwrite the input: " ++ output.display) [])
  else
    match ← Export.exportFile bridge input output format options with
    | .error error =>
      let summary := format.display ++ " export of " ++ input.display ++ " failed"
      return .failed (.ofError summary error)
    | .ok finished =>
      if preferences.json then return .recorded finished.toJson?
      else return .told (if preferences.quiet then "" else exportText finished)

/-- The failure of a worker that panicked. -/
def workerFailure (message : String) : Failure :=
  .stated "Ghostscript task panicked" ["task 0 panicked with message " ++ Quoted.text message]

/-- Runs the engine with arguments of the caller's own. -/
def runExecute (preferences : Preferences) (bridge : Bridge ε) (arguments : List String) :
    Program ε Finished := do
  match ← bridge.execute arguments with
  | .panic message => return .failed (workerFailure message)
  | .error error => return .failed (.ofError "Ghostscript execution failed" error)
  | .ok capture =>
    if preferences.json then return .recorded (some capture.toJson)
    else
      let told := if capture.truncated then truncationText capture.limit else ""
      return ⟨capture.text .output, capture.text .diagnostics ++ told, none⟩

/-- Measures a file. -/
def runMeasure (preferences : Preferences) (bridge : Bridge ε) (input : Path) :
    Program ε Finished :=
  match input.text? with
  | none => return .failed (.stated "Input path is not valid UTF-8" [])
  | some text => do
    match ← bridge.boundingBox text with
    | .panic message => return .failed (workerFailure message)
    | .error error => return .failed (.ofError ("Failed to measure " ++ input.display) error)
    | .ok box =>
      if preferences.json then return .recorded (some box.toJson)
      else return .printed (box.line ++ "\n")

/-- Whether a batch shows its progress. -/
def Preferences.showsProgress (preferences : Preferences) : Bool :=
  !preferences.quiet && !preferences.noProgress && !preferences.json

/-- What a batch that came to a report tells and prints. -/
def batchFinished (preferences : Preferences) (report : Export.Report) : Finished :=
  let shown :=
    if preferences.json then Finished.recorded report.toJson?
    else if preferences.quiet then .told ""
    else if preferences.showsProgress then .told (progressText report)
    else .told (batchText report)
  let failure := if report.failed = 0 then none
    else some (.stated (Decimal.ofNat report.failed ++ " of " ++
      Decimal.ofNat report.items.length ++ " files failed") [])
  { shown with failure := shown.failure <|> failure }

/-- Exports many files into a directory. -/
def runBatch (preferences : Preferences) (bridge : Bridge ε) (inputs : List Path)
    (directory : Path) (format : Format) (options : Export.Options) : Program ε Finished := do
  match ← Export.exportBatch bridge inputs directory format options with
  | .error error => return .failed (.ofError "Batch export failed" error)
  | .ok report => return batchFinished preferences report

/-- Runs a command on a bridge. -/
def runOn (preferences : Preferences) (bridge : Bridge ε) : Command → Program ε Finished
  | .version => runVersion preferences bridge
  | .convert format input output options =>
    runConvert preferences bridge format input output options
  | .execute arguments => runExecute preferences bridge arguments
  | .measure input => runMeasure preferences bridge input
  | .inspect input => runInspect preferences input
  | .batch inputs directory format options =>
    runBatch preferences bridge inputs directory format options

/-- Runs what a command line asks for.  An engine is bound first, unless none is
needed. -/
def runCommand (commandLine : CommandLine) : Program ε Finished :=
  let preferences := commandLine.preferences
  match commandLine.command with
  | .inspect input => runInspect preferences input
  | command => do
    match ← Bridge.load { Config.default with libraryPath := preferences.library } with
    | .error error => return .failed (.ofError "Ghostscript is not available" error)
    | .ok bridge => runOn preferences bridge command

/-! ## Whole runs -/

/-- How a run ended. -/
structure Ended where
  status : Nat
  output : String
  diagnostics : String
deriving DecidableEq, Repr

/-- The name and the version of the program. -/
def versionText : String := "gsbridge 0.1.0\n"

/-- How to use the program. -/
def helpText : String :=
  "Render, convert and measure EPS/PostScript files with Ghostscript\n\n" ++
  "Usage: gsbridge [OPTIONS] <COMMAND>\n\n" ++
  "Commands:\n" ++
  "  version                         Print the Ghostscript version\n" ++
  "  png <INPUT> [-o <OUTPUT>]       Rasterise to PNG\n" ++
  "  jpeg <INPUT> [-o <OUTPUT>]      Rasterise to JPEG\n" ++
  "  pdf <INPUT> [-o <OUTPUT>]       Convert to PDF, cropped to the bounding box\n" ++
  "  exec [ARGS]...                  Run Ghostscript with raw arguments\n" ++
  "  bbox <INPUT>                    Measure the bounding box\n" ++
  "  inspect <INPUT>                 Show the DSC header of an EPS file\n" ++
  "  batch <INPUTS>... -d <OUT_DIR>  Export many files into a directory\n" ++
  "  help [COMMAND]                  Print this message\n"

/-- What is told of a command line that makes no sense. -/
def usageText : String := "error: invalid command line\n\nFor more information, try '--help'.\n"

/-- How a run ends that was stopped before it began. -/
def Stop.ended : Stop → Ended
  | usage => ⟨2, "", usageText⟩
  | help => ⟨0, helpText, ""⟩
  | version => ⟨0, versionText, ""⟩

/-- How a run ends with its command. -/
def Finished.ended (finished : Finished) : Ended :=
  match finished.failure with
  | none => ⟨0, finished.output, finished.diagnostics⟩
  | some failure => ⟨failure.status, finished.output, finished.diagnostics ++ failure.report⟩

/-- Runs a command line in an environment. -/
def run (environment : Environment) (arguments : List (List UInt8)) : Program ε Ended :=
  match CommandLine.read environment arguments with
  | .error stop => return stop.ended
  | .ok commandLine => do return (← runCommand commandLine).ended

end EpsBridge.Cli
