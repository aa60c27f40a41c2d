import EpsBridge.Export.File
import EpsBridge.Export.Plan

/-!
# Exporting many files

A batch exports its inputs one after another into a directory, under the names
of its plan.  A file that fails is reported, and the batch goes on.
-/

namespace EpsBridge.Export

open Program

variable {ε : Type}

/-- The event that an item ends with. -/
def Item.event (position total : Nat) (item : Item) : Event :=
  match item.error with
  | none => .fileComplete position total item.output
  | some message => .fileError position total item.input message

/-- Exports one file of a batch. -/
def exportItem (bridge : Bridge ε) (format : Format) (options : Options)
    (position total : Nat) (input output : Path) : Program ε Item := do
  perform (.notify (.fileStart position total input))
  let result ← exportFile bridge input output format options
  let item := Item.ofResult input output result
  perform (.notify (item.event position total))
  return item

/-- Exports the files of a plan from a position on. -/
def exportItems (bridge : Bridge ε) (format : Format) (options : Options) (total : Nat) :
    Nat → List (Path × Path) → Program ε (List Item)
  | _, [] => return []
  | position, (input, output) :: rest => do
    let item ← exportItem bridge format options position total input output
    let items ← exportItems bridge format options total (position + 1) rest
    return item :: items

/-- Exports all inputs into a directory, which is created if it is missing. -/
def exportBatch (bridge : Bridge ε) (inputs : List Path) (directory : Path) (format : Format)
    (options : Options) : Program ε (Except Error Report) := do
  let started ← perform .readClock
  match ← perform (.makeDirectories directory) with
  | .error error => return .error (.outputWriteFailed directory error)
  | .ok () =>
    let jobs := plan inputs directory format
    perform (.notify (.batchStart jobs.length))
    let items ← exportItems bridge format options jobs.length 1 jobs
    let report := Report.ofItems items 0
    perform (.notify (.batchComplete jobs.length report.succeeded))
    let ended ← perform .readClock
    return .ok { report with milliseconds := ended - started }

end EpsBridge.Export
