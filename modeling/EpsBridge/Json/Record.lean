import EpsBridge.Json.Basic

/-!
# Records in JSON

A record is an object with named fields, or an array of exactly its fields in
order.  In an object, names that the record does not know are passed over, and
a name that it knows may occur once.  A field is required, or it may be missing
or null.

A choice is a string, or an object with the name of the choice as its only
field.
-/

namespace EpsBridge.Json

/-- The values of the named fields of a record, in the order of the names. -/
def fields? (names : List String) : Json → Option (List (Option Json))
  | array items => if items.length = names.length then some (items.map some) else none
  | object fields =>
    if names.all fun name => (fields.filter (·.1 = name)).length ≤ 1 then
      some (names.map (List.lookup · fields))
    else none
  | _ => none

/-- Reads a field that has to be there. -/
def required? {α : Type} (read : Json → Option α) (field : Option Json) : Option α :=
  field.bind read

/-- Reads a field that may be missing or null. -/
def optional? {α : Type} (read : Json → Option α) : Option Json → Option (Option α)
  | none => some none
  | some null => some none
  | some value => (read value).map some

/-- The name of a choice and what comes with it, if anything does. -/
def choice? : Json → Option (String × Option Json)
  | string name => some (name, none)
  | object [(name, value)] => some (name, some value)
  | _ => none

/-- Reads a choice among names that carry nothing. -/
def unitChoice? {α : Type} (choices : List (String × α)) (value : Json) : Option α :=
  match value.choice? with
  | some (name, none) => choices.lookup name
  | some (name, some .null) => choices.lookup name
  | _ => none

end EpsBridge.Json
