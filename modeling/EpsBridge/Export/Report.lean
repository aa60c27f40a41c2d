import EpsBridge.Format

/-!
# Options and reports of exports

What a caller may ask of an export, what a finished export reports, and what a
batch reports about each of its files.
-/

namespace EpsBridge.Export

/-- What a caller may ask for.  Where nothing is asked for, the configuration
decides. -/
structure Options where
  /-- The resolution of a raster image. -/
  dpi : Option UInt32
  /-- The quality of lossy compression. -/
  quality : Option Int32
  /-- Whether a destination that exists is replaced. -/
  overwrite : Bool
deriving DecidableEq, Repr

namespace Options

/-- The options of a caller who asks for nothing. -/
def default : Options := ⟨none, none, true⟩

/-- The options as a record. -/
def toJson (options : Options) : Json :=
  .object [("dpi", Json.ofOption (fun (dpi : UInt32) => Json.ofNat dpi.toNat) options.dpi),
    ("quality", Json.ofOption (fun (quality : Int32) => .integer quality.toInt) options.quality),
    ("overwrite", .bool options.overwrite)]

/-- Reads a record. -/
def ofJson? (value : Json) : Option Options := do
  match ← value.fields? ["dpi", "quality", "overwrite"] with
  | [dpi, quality, overwrite] =>
    return ⟨← Json.optional? Json.uint32? dpi, ← Json.optional? Json.int32? quality,
      ← Json.required? Json.bool? overwrite⟩
  | _ => none

end Options

/-- A finished export. -/
structure Finished where
  input : Path
  output : Path
  format : Format
  /-- The size of the file written. -/
  bytes : Nat
  milliseconds : Nat
deriving DecidableEq, Repr

namespace Finished

/-- The finished export as a record, if its paths can be written. -/
def toJson? (finished : Finished) : Option Json := do
  return .object [("input", ← finished.input.toJson?), ("output", ← finished.output.toJson?),
    ("format", finished.format.toJson), ("bytes", .ofNat finished.bytes),
    ("duration_ms", .ofNat finished.milliseconds)]

/-- Reads a record. -/
def ofJson? (value : Json) : Option Finished := do
  match ← value.fields? ["input", "output", "format", "bytes", "duration_ms"] with
  | [input, output, format, bytes, milliseconds] =>
    return ⟨← Json.required? Path.ofJson? input, ← Json.required? Path.ofJson? output,
      ← Json.required? Format.ofJson? format, ← Json.required? Json.natural64? bytes,
      ← Json.required? Json.natural64? milliseconds⟩
  | _ => none

end Finished

/-- What became of one file of a batch. -/
structure Item where
  input : Path
  output : Path
  finished : Option Finished
  error : Option String
  kind : Option Error.Kind
deriving DecidableEq, Repr

namespace Item

/-- Whether the file was exported. -/
def isSuccess (item : Item) : Bool := item.error.isNone

/-- The item of an export that ended. -/
def ofResult (input output : Path) : Except Error Finished → Item
  | .ok finished => ⟨input, output, some finished, none, none⟩
  | .error error => ⟨input, output, none, some error.message, some error.kind⟩

/-- The item as a record, if its paths can be written. -/
def toJson? (item : Item) : Option Json := do
  let finished ← match item.finished with
    | none => some .null
    | some finished => finished.toJson?
  return .object [("input", ← item.input.toJson?), ("output", ← item.output.toJson?),
    ("outcome", finished), ("error", Json.ofOption .string item.error),
    ("error_kind", Json.ofOption Error.Kind.toJson item.kind)]

/-- Reads a record. -/
def ofJson? (value : Json) : Option Item := do
  match ← value.fields? ["input", "output", "outcome", "error", "error_kind"] with
  | [input, output, finished, error, kind] =>
    return ⟨← Json.required? Path.ofJson? input, ← Json.required? Path.ofJson? output,
      ← Json.optional? Finished.ofJson? finished, ← Json.optional? Json.string? error,
      ← Json.optional? Error.Kind.ofJson? kind⟩
  | _ => none

end Item

/-- What became of all files of a batch, in the order of its inputs. -/
structure Report where
  items : List Item
  succeeded : Nat
  failed : Nat
  milliseconds : Nat
deriving DecidableEq, Repr

namespace Report

/-- The report of some items. -/
def ofItems (items : List Item) (milliseconds : Nat) : Report :=
  let succeeded := (items.filter Item.isSuccess).length
  ⟨items, succeeded, items.length - succeeded, milliseconds⟩

/-- The report as a record, if its paths can be written. -/
def toJson? (report : Report) : Option Json := do
  return .object [("items", .array (← report.items.mapM Item.toJson?)),
    ("succeeded", .ofNat report.succeeded), ("failed", .ofNat report.failed),
    ("duration_ms", .ofNat report.milliseconds)]

/-- Reads a record. -/
def ofJson? (value : Json) : Option Report := do
  match ← value.fields? ["items", "succeeded", "failed", "duration_ms"] with
  | [items, succeeded, failed, milliseconds] =>
    return ⟨← Json.required? (Json.listOf? Item.ofJson?) items,
      ← Json.required? Json.natural64? succeeded, ← Json.required? Json.natural64? failed,
      ← Json.required? Json.natural64? milliseconds⟩
  | _ => none

end Report

end EpsBridge.Export
