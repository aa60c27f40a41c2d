import EpsBridge.Number.Decimal

/-!
# JSON values

A value keeps what its text said as far as a reader of records can tell:
integers apart from other numbers, and the fields of an object in the order and
the number in which they were written.
-/

namespace EpsBridge

/-- A JSON value. -/
inductive Json where
  | null
  | bool (value : Bool)
  | integer (value : Int)
  /-- A number written with a point, an exponent, or as minus zero. -/
  | real (literal : String)
  | string (text : String)
  /-- A string with half of a surrogate pair, or an object with such a name.
  It has the form of a value and denotes none. -/
  | malformed
  | array (items : List Json)
  | object (fields : List (String × Json))
deriving Inhabited

namespace Json

/-- The text of a string. -/
def string? : Json → Option String
  | string text => some text
  | _ => none

/-- The integer of an integer. -/
def integer? : Json → Option Int
  | integer value => some value
  | _ => none

/-- The truth value of a truth value. -/
def bool? : Json → Option Bool
  | bool value => some value
  | _ => none

/-- The items of an array. -/
def array? : Json → Option (List Json)
  | array items => some items
  | _ => none

/-- The fields of an object. -/
def object? : Json → Option (List (String × Json))
  | object fields => some fields
  | _ => none

/-- The first field of a name in an object. -/
def field? (name : String) : Json → Option Json
  | object fields => fields.lookup name
  | _ => none

/-- A natural number that is no larger than `largest`. -/
def naturalUpTo? (largest : Nat) (value : Json) : Option Nat :=
  value.integer?.bind fun n =>
    if 0 ≤ n && n ≤ Int.ofNat largest then some n.toNat else none

/-- An integer within 32 bits. -/
def int32? (value : Json) : Option Int32 :=
  value.integer?.bind Decimal.int32?

/-- A natural number within 32 bits. -/
def uint32? (value : Json) : Option UInt32 :=
  value.integer?.bind Decimal.uint32?

/-- An integer within 64 bits. -/
def integer64? (value : Json) : Option Int :=
  value.integer?.bind fun n =>
    if Int64.minValue.toInt ≤ n && n ≤ Int64.maxValue.toInt then some n else none

/-- A natural number within 64 bits. -/
def natural64? (value : Json) : Option Nat :=
  value.naturalUpTo? (UInt64.size - 1)

/-- The items of an array, each read by `read`. -/
def listOf? {α : Type} (read : Json → Option α) (value : Json) : Option (List α) :=
  value.array?.bind fun items => items.mapM read

/-- Writes a natural number. -/
def ofNat (value : Nat) : Json :=
  .integer (Int.ofNat value)

/-- Writes what is there, and null for nothing. -/
def ofOption {α : Type} (write : α → Json) : Option α → Json
  | none => .null
  | some value => write value

end Json

end EpsBridge
