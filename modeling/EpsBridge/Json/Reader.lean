import EpsBridge.Json.Basic
import EpsBridge.Json.Token

/-!
# Reading JSON text

Tokens drive a machine with a stack of the arrays and objects that are still
open.  The stack is a list, so nesting has no limit.
-/

namespace EpsBridge.Json

/-- An array or object that is still open; what it holds comes last first. -/
inductive Frame where
  | array (items : List Json)
  /-- An object whose names so far denote text, or not all of them. -/
  | object (fields : List (String × Json)) (broken : Bool)
  /-- An object of which a field's name has been read. -/
  | field (fields : List (String × Json)) (broken : Bool) (name : Option String)

/-- What the machine accepts next. -/
inductive Expected where
  /-- A value, or the end of the array just opened. -/
  | valueOrEnd
  | value
  /-- A name, or the end of the object just opened. -/
  | nameOrEnd
  | name
  | colon
  /-- A comma, or the end of what is open. -/
  | commaOrEnd
deriving DecidableEq

/-- The machine: what is open, innermost first, and what comes next.  Once
nothing is open and a value is read, it is done. -/
inductive Machine where
  | working (opened : List Frame) (expected : Expected)
  | done (value : Json)

namespace Machine

/-- Nothing read yet. -/
def start : Machine := .working [] .value

/-- Takes a complete value into what is open. -/
def supply (value : Json) : List Frame → Machine
  | [] => .done value
  | .array items :: rest => .working (.array (value :: items) :: rest) .commaOrEnd
  | .field fields broken (some name) :: rest =>
    .working (.object ((name, value) :: fields) broken :: rest) .commaOrEnd
  | .field fields _ none :: rest => .working (.object fields true :: rest) .commaOrEnd
  | .object fields broken :: rest => .working (.object fields broken :: rest) .commaOrEnd

/-- Closes the innermost array. -/
def closeArray? : List Frame → Option Machine
  | .array items :: rest => some (supply (.array items.reverse) rest)
  | _ => none

/-- Closes the innermost object. -/
def closeObject? : List Frame → Option Machine
  | .object fields false :: rest => some (supply (.object fields.reverse) rest)
  | .object _ true :: rest => some (supply .malformed rest)
  | _ => none

/-- Reads a token where a value is due. -/
def value? (opened : List Frame) : Token → Option Machine
  | .openArray => some (.working (.array [] :: opened) .valueOrEnd)
  | .openObject => some (.working (.object [] false :: opened) .nameOrEnd)
  | .null => some (supply .null opened)
  | .bool value => some (supply (.bool value) opened)
  | .integer value => some (supply (.integer value) opened)
  | .real literal => some (supply (.real literal) opened)
  | .string (some text) => some (supply (.string text) opened)
  | .string none => some (supply .malformed opened)
  | _ => none

/-- Reads a token where a name is due. -/
def name? : List Frame → Token → Option Machine
  | .object fields broken :: rest, .string name =>
    some (.working (.field fields broken name :: rest) .colon)
  | _, _ => none

/-- Reads one token. -/
def step? : Machine → Token → Option Machine
  | .done _, _ => none
  | .working opened .valueOrEnd, .closeArray => closeArray? opened
  | .working opened .valueOrEnd, token => value? opened token
  | .working opened .value, token => value? opened token
  | .working opened .nameOrEnd, .closeObject => closeObject? opened
  | .working opened .nameOrEnd, token => name? opened token
  | .working opened .name, token => name? opened token
  | .working opened .colon, .colon => some (.working opened .value)
  | .working _ .colon, _ => none
  | .working opened .commaOrEnd, .closeArray => closeArray? opened
  | .working opened .commaOrEnd, .closeObject => closeObject? opened
  | .working (.array items :: rest) .commaOrEnd, .comma =>
    some (.working (.array items :: rest) .value)
  | .working (.object fields broken :: rest) .commaOrEnd, .comma =>
    some (.working (.object fields broken :: rest) .name)
  | .working _ .commaOrEnd, _ => none

/-- The value read, once it is complete. -/
def value : Machine → Option Json
  | .done value => some value
  | .working _ _ => none

end Machine

/-- Reads a text that holds one value, blanks around it allowed. -/
def read? (text : String) : Option Json := do
  let tokens ← tokens? text
  let machine ← tokens.foldlM Machine.step? Machine.start
  machine.value

end EpsBridge.Json
