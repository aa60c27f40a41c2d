import EpsBridge.Format
import EpsBridge.Text.Lowercase

/-!
# Planning the outputs of a batch

Every input of a batch gets a name of its own in the output directory: its stem
with the extension of the format, and a number from 2 on where that name is
taken.  Names are taken when they differ at most in case.
-/

namespace EpsBridge.Export

/-- The stem of files that have none. -/
def defaultStem : String := "output"

/-- The stem that an input gives to its output. -/
def stemOf (input : Path) : String :=
  match input.fileStem? with
  | some bytes => if bytes.isEmpty then defaultStem else Utf8.decode bytes
  | none => defaultStem

/-- The name without a number. -/
def plainName (stem : String) (format : Format) : String :=
  stem ++ "." ++ format.extension

/-- The name with a number. -/
def numberedName (stem : String) (format : Format) (number : Nat) : String :=
  stem ++ "-" ++ Decimal.ofNat number ++ "." ++ format.extension

/-- The names that an output may have, in the order of preference, one more than
a number of taken names. -/
def nameChoices (stem : String) (format : Format) (taken : Nat) : List String :=
  plainName stem format ::
    (List.range taken).map fun index => numberedName stem format (index + 2)

/-- The first choice that is not taken.  There are more choices than taken
names, so there is one. -/
def freeName (stem : String) (format : Format) (taken : List String) : String :=
  ((nameChoices stem format taken.length).find? fun name =>
    !taken.contains (Text.lowercase name)).getD (plainName stem format)

/-- Names the outputs of some inputs, given the lower-case forms of the names
that are taken. -/
def planFrom (directory : Path) (format : Format) (taken : List String) :
    List Path → List (Path × Path)
  | [] => []
  | input :: rest =>
    let name := freeName (stemOf input) format taken
    (input, directory.join (.ofString name)) ::
      planFrom directory format (Text.lowercase name :: taken) rest

/-- Pairs each input with its output. -/
def plan (inputs : List Path) (directory : Path) (format : Format) : List (Path × Path) :=
  planFrom directory format [] inputs

end EpsBridge.Export
