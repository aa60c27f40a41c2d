import EpsBridge.Text.Utf8

/-!
# Environments

The environment of a process gives values to names.  A value is a string of
bytes, which a reader of text takes for unset where it is not UTF-8.
-/

namespace EpsBridge

/-- Names and values. -/
abbrev Environment := List (String × List UInt8)

namespace Environment

/-- The value of a variable, if it is set. -/
def value? (environment : Environment) (name : String) : Option (List UInt8) :=
  environment.lookup name

/-- The text of a variable, if it is set and UTF-8. -/
def text? (environment : Environment) (name : String) : Option String :=
  (environment.value? name).bind Utf8.decodeExactly?

/-- Sets a variable, or unsets it where there is no value. -/
def assign (environment : Environment) (name : String) (value : Option (List UInt8)) :
    Environment :=
  (value.map fun bytes => (name, bytes)).toList ++ environment.filter fun entry => entry.1 ≠ name

end Environment

end EpsBridge
