import EpsBridge.Eps.Header

/-!
# Metadata of EPS files
-/

namespace EpsBridge.Eps

/-- What is known of a file without running an engine. -/
structure Metadata where
  fileName : String
  fileSize : Nat
  /-- Seconds since the beginning of 1970, where the file is no older. -/
  modifiedAt : Option Nat
  /-- Whether the file has a binary header. -/
  binary : Bool
  /-- The number of pages that the header gives, or one. -/
  pageCount : UInt32
  width : Option Int32
  height : Option Int32
  header : Header
deriving DecidableEq, Repr

namespace Metadata

/-- The metadata as a record. -/
def toJson (metadata : Metadata) : Json :=
  let side := Json.ofOption fun (value : Int32) => Json.integer value.toInt
  .object [("file_name", .string metadata.fileName), ("file_size", .ofNat metadata.fileSize),
    ("modified_at", Json.ofOption Json.ofNat metadata.modifiedAt),
    ("binary", .bool metadata.binary), ("page_count", .ofNat metadata.pageCount.toNat),
    ("width", side metadata.width), ("height", side metadata.height),
    ("header", metadata.header.toJson)]

/-- Reads a record. -/
def ofJson? (value : Json) : Option Metadata := do
  match ← value.fields? ["file_name", "file_size", "modified_at", "binary", "page_count",
    "width", "height", "header"] with
  | [name, size, modified, binary, pages, width, height, header] =>
    return ⟨← Json.required? Json.string? name, ← Json.required? Json.natural64? size,
      ← Json.optional? Json.natural64? modified, ← Json.required? Json.bool? binary,
      ← Json.required? Json.uint32? pages, ← Json.optional? Json.int32? width,
      ← Json.optional? Json.int32? height, ← Json.required? Header.ofJson? header⟩
  | _ => none

end Metadata

end EpsBridge.Eps
