import EpsBridge.FileStore.Workspace
import EpsBridge.Text.Blank

/-!
# The outputs that arguments name

An engine writes where its output arguments tell it to.
-/

namespace EpsBridge

/-- What follows `-o` in an argument that begins with it. -/
def outputOf? (argument : String) : Option Path :=
  (Text.after? ['-', 'o'] argument.toList).map fun rest => .ofString (String.ofList rest)

/-- The output of the first argument that names one. -/
def firstOutput? (argv : List String) : Option Path :=
  argv.findSome? outputOf?

end EpsBridge
