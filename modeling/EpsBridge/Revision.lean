import EpsBridge.Json.Record

/-!
# Engine revisions

An engine reports its revision as one packed number.  From 1000 on it is
`major * 1000 + minor * 10 + patch`; below that it is `major * 100 + minor`.
Division goes toward zero, so a negative number, which no release has, is still
shown.
-/

namespace EpsBridge

/-- What an engine says about its release. -/
structure Revision where
  product : String
  copyright : String
  /-- The packed revision. -/
  number : Int
  /-- The release date as year, month and day in eight digits. -/
  date : Int
deriving DecidableEq, Repr, Inhabited

namespace Revision

/-- The least number packed in three parts. -/
def threePart : Int := 1000

/-- The first part of the version. -/
def major (revision : Revision) : Int :=
  if revision.number < threePart then revision.number.tdiv 100 else revision.number.tdiv 1000

/-- The second part of the version. -/
def minor (revision : Revision) : Int :=
  if revision.number < threePart then revision.number.tmod 100
  else (revision.number.tdiv 10).tmod 100

/-- The third part of the version. -/
def patch (revision : Revision) : Int :=
  if revision.number < threePart then 0 else revision.number.tmod 10

/-- The version and the date, as in `10.02.1-20230913`. -/
def version (revision : Revision) : String :=
  Decimal.ofInt revision.major ++ "." ++ Decimal.padded 2 revision.minor ++ "." ++
    Decimal.ofInt revision.patch ++ "-" ++ Decimal.ofInt revision.date

/-- The revision as a record. -/
def toJson (revision : Revision) : Json :=
  .object [("product", .string revision.product), ("copyright", .string revision.copyright),
    ("revision", .integer revision.number), ("revision_date", .integer revision.date)]

/-- Reads a record. -/
def ofJson? (value : Json) : Option Revision := do
  match ← value.fields? ["product", "copyright", "revision", "revision_date"] with
  | [product, copyright, number, date] =>
    return ⟨← Json.required? Json.string? product, ← Json.required? Json.string? copyright,
      ← Json.required? Json.integer64? number, ← Json.required? Json.integer64? date⟩
  | _ => none

end Revision

end EpsBridge
