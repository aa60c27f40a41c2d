import EpsBridge.Eps.Metadata
import EpsBridge.Error
import EpsBridge.Export.Report
import EpsBridge.Json.Writer
import EpsBridge.Revision

/-!
# What the command line prints

Results go to the output, everything else to the diagnostics.  A failure is
reported with what was attempted, followed by its causes; several causes are
numbered, and the further lines of a cause are indented like its first.
-/

namespace EpsBridge.Cli

/-! ## Emphasis -/

/-- A text between two control sequences of a terminal. -/
def emphasized (code text : String) : String := "\x1b[" ++ code ++ "m" ++ text ++ "\x1b[0m"

/-- A text of something that went well. -/
def green : String → String := emphasized "32"

/-- A text of something that went wrong. -/
def red : String → String := emphasized "31"

/-- A text of a warning. -/
def yellow : String → String := emphasized "33"

/-- A text of less importance. -/
def dim : String → String := emphasized "2"

/-- A text of more importance. -/
def bold : String → String := emphasized "1"

/-! ## Failures -/

/-- Why a run failed. -/
inductive Failure where
  /-- What was attempted, and the causes of its failure. -/
  | stated (summary : String) (causes : List String)
  /-- The thread of the run panicked. -/
  | panicked (message : String)
deriving DecidableEq, Repr

namespace Failure

/-- The failure of an attempt that ended with an error. -/
def ofError (summary : String) (error : Error) : Failure := .stated summary error.chain

/-- A text whose lines but the first are indented. -/
def indented (indentation : String) (text : String) : String :=
  String.intercalate ("\n" ++ indentation) (text.splitOn "\n")

/-- The blanks in front of a cause. -/
def plainIndentation : String := "    "

/-- The blanks in front of the further lines of a numbered cause. -/
def numberedIndentation : String := "       "

/-- A number, aligned to the right. -/
def aligned (number : Nat) : String :=
  let digits := Decimal.ofNat number
  String.ofList (List.replicate (5 - digits.length) ' ') ++ digits

/-- A cause among several. -/
def numbered (number : Nat) (cause : String) : String :=
  aligned number ++ ": " ++ indented numberedIndentation cause

/-- The causes, each on a line of its own or several. -/
def causeLines : List String → List String
  | [cause] => [plainIndentation ++ indented plainIndentation cause]
  | causes => causes.zipIdx.map fun (cause, number) => numbered number cause

/-- The report of a failure.  A panic has been told when it happened, and is not told again. -/
def report : Failure → String
  | stated summary causes =>
    let causes := if causes.isEmpty then ""
      else "\n\nCaused by:\n" ++ String.intercalate "\n" (causeLines causes)
    "Error: " ++ summary ++ causes ++ "\n"
  | panicked _ => ""

/-- The status of a run that fails. -/
def status : Failure → Nat
  | stated _ _ => 1
  | panicked _ => 101

end Failure

/-! ## Results -/

/-- A record with one item or field to a line. -/
def recordText (value : Json) : String := value.pretty ++ "\n"

/-- A label, and what it labels. -/
def labelled (label text : String) : String :=
  label ++ ":" ++ String.ofList (List.replicate (15 - label.length) ' ') ++ text ++ "\n"

/-- A labelled text, if there is one. -/
def labelled? (label : String) (text : Option String) : String :=
  (text.map (labelled label)).getD ""

/-- The box of a file in words. -/
def boxText : Option BoundingBox → String
  | some box =>
    box.corners ++ "  (" ++ Decimal.ofInt32 box.width ++ " x " ++ Decimal.ofInt32 box.height ++
      " pt)"
  | none => dim "not declared"

/-- The metadata of a file in words. -/
def metadataText (metadata : Eps.Metadata) : String :=
  let header := metadata.header
  labelled "File" metadata.fileName ++
  labelled "Size" (Decimal.ofNat metadata.fileSize ++ " bytes") ++
  labelled "Format" (if metadata.binary then "DOS EPS" else "EPS") ++
  labelled? "Header" header.versionLine ++
  labelled? "Title" header.title ++
  labelled? "Creator" header.creator ++
  labelled? "Created" header.creationDate ++
  labelled "Pages" (Decimal.ofNat metadata.pageCount.toNat) ++
  labelled? "LanguageLevel" (header.languageLevel.map fun level => Decimal.ofNat level.toNat) ++
  labelled "BoundingBox" (boxText header.effectiveBox)

/-- A revision with its version, as a record. -/
def revisionRecord (revision : Revision) : Json :=
  .object (("version", .string revision.version) :: (revision.toJson.object?).getD [])

/-- What is told of a finished export. -/
def exportText (finished : Export.Finished) : String :=
  green "✔" ++ "  " ++ bold finished.output.display ++ "  " ++
    dim (Decimal.ofNat finished.bytes ++ " bytes") ++ "  " ++
    dim (Decimal.ofNat finished.milliseconds ++ "ms") ++ "\n"

/-- What is told at the end of a batch whose progress was shown. -/
def progressText (report : Export.Report) : String :=
  let total := report.items.length
  if report.succeeded = total then
    green "✔" ++ " " ++ bold (Decimal.ofNat total) ++ " files exported\n"
  else
    red "✘" ++ " " ++ bold (Decimal.ofNat report.succeeded) ++ "/" ++ Decimal.ofNat total ++
      " files exported  (" ++ red (Decimal.ofNat (total - report.succeeded)) ++ " failed)\n"

/-- What is told at the end of a batch whose progress was not shown. -/
def batchText (report : Export.Report) : String :=
  "Exported " ++ Decimal.ofNat report.succeeded ++ "/" ++ Decimal.ofNat report.items.length ++
    " files in " ++ Decimal.ofNat report.milliseconds ++ "ms\n"

/-- What is told where output was dropped. -/
def truncationText (limit : Nat) : String :=
  yellow "!" ++ " output truncated at " ++ Decimal.ofNat limit ++ " bytes per stream\n"

end EpsBridge.Cli
