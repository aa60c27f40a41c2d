import EpsBridge.Bridge.Convert
import EpsBridge.Export.Report

/-!
# Exporting a file

An export renders to a temporary file beside the destination and moves it into
place once the engine has succeeded.  On every other way out the temporary file
is removed, so a failed export leaves the destination as it was.

The work is done by a worker.  If it panics, the export fails with an error.
-/

namespace EpsBridge.Export

open Program

variable {ε : Type}

/-- What the names of temporary files begin with. -/
def temporaryBeginning : String := ".gsbridge-"

/-- The failure of a destination that must not be replaced. -/
def destinationExists : FileError := .stated "destination exists and overwrite is off"

/-- The directory of a file. -/
def directoryOf (path : Path) : Path :=
  match path.parent? with
  | some parent => if parent.bytes.isEmpty then .ofString "." else parent
  | none => .ofString "."

/-- The text of a path that is to be an argument of an engine. -/
def argumentText (path : Path) (index : Nat) : Except Error String :=
  match path.text? with
  | some text => .ok text
  | none => .error (.invalidArgument index ("path is not valid UTF-8: " ++ path.display))

/-- Renders a file in a format. -/
def render (bridge : Bridge ε) (input output : String) (format : Format) (options : Options) :
    Program ε (Outcome Error Unit) :=
  let dpi := options.dpi.getD bridge.config.defaultDpi
  match format with
  | .png => bridge.renderPng input output dpi
  | .jpeg =>
    bridge.renderJpeg input output dpi (options.quality.getD bridge.config.jpegQuality)
  | .pdf => bridge.convertPdf input output

/-- Renders a file to a temporary one. -/
def renderTo (bridge : Bridge ε) (input temporary : Path) (format : Format)
    (options : Options) : Program ε (Outcome Error Unit) :=
  match argumentText input 0, argumentText temporary 1 with
  | .ok input, .ok output => render bridge input output format options
  | .error error, _ => return .error error
  | _, .error error => return .error error

/-- Moves a rendered file into place and says how large it is. -/
def putInPlace (temporary output : Path) : Program ε (Outcome Error Nat) := do
  match ← perform (.fileSize temporary) with
  | .error error => return .error (.outputWriteFailed output error)
  | .ok size =>
    match ← perform (.moveFile temporary output) with
    | .error error => return .error (.outputWriteFailed output error)
    | .ok () => return .ok size

/-- Removes a temporary file unless an outcome is a success. -/
def removeUnlessOk {α : Type} (temporary : Path) (outcome : Outcome Error α) :
    Program ε (Outcome Error α) := do
  if outcome.isOk then return outcome
  else
    perform (.removeFile temporary)
    return outcome

/-- Renders a file by way of a temporary one and puts it into place. -/
def renderInPlace (bridge : Bridge ε) (input temporary output : Path) (format : Format)
    (options : Options) : Program ε (Outcome Error Nat) := do
  match ← renderTo bridge input temporary format options with
  | .ok () => putInPlace temporary output
  | .error error => return .error error
  | .panic message => return .panic message

/-- What stands in the way of an export before it begins, if anything does. -/
def refusal? (input output : Path) (options : Options) : Program ε (Option Error) := do
  if !(← perform (.pathExists input)) then return some (.fileNotFound input)
  else if options.overwrite then return none
  else if ← perform (.pathExists output) then
    return some (.outputWriteFailed output destinationExists)
  else return none

/-- The work of an export. -/
def exportWork (bridge : Bridge ε) (input output : Path) (format : Format)
    (options : Options) : Program ε (Outcome Error Finished) := do
  let started ← perform .readClock
  match ← refusal? input output options with
  | some error => return .error error
  | none =>
    match ← perform (.createTemporary (.directory (directoryOf output)) temporaryBeginning
        ("." ++ format.extension)) with
    | .error error => return .error (.outputWriteFailed output error)
    | .ok temporary =>
      let outcome ← renderInPlace bridge input temporary output format options
      let outcome ← removeUnlessOk temporary outcome
      let ended ← perform .readClock
      return outcome.map fun bytes => ⟨input, output, format, bytes, ended - started⟩

/-- The error of a worker that panicked. -/
def workerError (work message : String) : Error :=
  .internal (work ++ " task panicked: task 0 panicked with message " ++ Quoted.text message)

/-- Exports a file. -/
def exportFile (bridge : Bridge ε) (input output : Path) (format : Format)
    (options : Options) : Program ε (Except Error Finished) := do
  return (← exportWork bridge input output format options).recover (workerError "Export")

end EpsBridge.Export
