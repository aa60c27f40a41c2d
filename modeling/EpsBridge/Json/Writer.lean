import EpsBridge.Json.Basic

/-!
# Writing JSON text

Two layouts: without any blank, and with one item or field to a line, two
blanks deeper than what holds it.  Strings keep every character but the quote,
the backslash and the control characters below the blank.
-/

namespace EpsBridge.Json

/-- A hexadecimal digit in lower case. -/
def hexDigit (value : Nat) : Char :=
  Char.ofNat (if value < 10 then '0'.toNat + value else 'a'.toNat + (value - 10))

/-- Adds a character of a string, escaped where it must be. -/
def pushEscaped (text : String) (c : Char) : String :=
  if c = '"' then text ++ "\\\""
  else if c = '\\' then text ++ "\\\\"
  else if c = '\x08' then text ++ "\\b"
  else if c = '\x0c' then text ++ "\\f"
  else if c = '\n' then text ++ "\\n"
  else if c = '\r' then text ++ "\\r"
  else if c = '\t' then text ++ "\\t"
  else if c.toNat < 0x20 then
    ((text ++ "\\u00").push (hexDigit (c.toNat / 16))).push (hexDigit (c.toNat % 16))
  else text.push c

/-- A string with its quotes. -/
def quote (text : String) : String :=
  (text.foldl pushEscaped "\"").push '"'

/-- The blanks at the beginning of a line. -/
def indentation (depth : Nat) : String :=
  String.ofList ('\n' :: List.replicate (2 * depth) ' ')

mutual

/-- Writes a value behind a text, without blanks. -/
def compactAfter (text : String) : Json → String
  | null => text ++ "null"
  | bool value => text ++ (if value then "true" else "false")
  | integer value => text ++ Decimal.ofInt value
  | real literal => text ++ literal
  | string value => text ++ quote value
  | malformed => text ++ "null"
  | array items => (compactItems (text.push '[') items).push ']'
  | object fields => (compactFields (text.push '\x7b') fields).push '\x7d'

/-- Writes items with commas between them. -/
def compactItems (text : String) : List Json → String
  | [] => text
  | [item] => compactAfter text item
  | item :: next :: rest => compactItems ((compactAfter text item).push ',') (next :: rest)

/-- Writes fields with commas between them. -/
def compactFields (text : String) : List (String × Json) → String
  | [] => text
  | [(name, value)] => compactAfter (text ++ quote name ++ ":") value
  | (name, value) :: next :: rest =>
    compactFields ((compactAfter (text ++ quote name ++ ":") value).push ',') (next :: rest)

end

mutual

/-- Writes a value behind a text over several lines, the first of them at
`depth`. -/
def prettyAfter (text : String) (depth : Nat) : Json → String
  | null => text ++ "null"
  | bool value => text ++ (if value then "true" else "false")
  | integer value => text ++ Decimal.ofInt value
  | real literal => text ++ literal
  | string value => text ++ quote value
  | malformed => text ++ "null"
  | array [] => text ++ "[]"
  | array (item :: rest) =>
    prettyItems (text.push '[') (depth + 1) (item :: rest) ++ indentation depth ++ "]"
  | object [] => text ++ "\x7b\x7d"
  | object (field :: rest) =>
    prettyFields (text.push '\x7b') (depth + 1) (field :: rest) ++ indentation depth ++ "\x7d"

/-- Writes items, each on its own line. -/
def prettyItems (text : String) (depth : Nat) : List Json → String
  | [] => text
  | [item] => prettyAfter (text ++ indentation depth) depth item
  | item :: next :: rest =>
    prettyItems ((prettyAfter (text ++ indentation depth) depth item).push ',') depth
      (next :: rest)

/-- Writes fields, each on its own line. -/
def prettyFields (text : String) (depth : Nat) : List (String × Json) → String
  | [] => text
  | [(name, value)] => prettyAfter (text ++ indentation depth ++ quote name ++ ": ") depth value
  | (name, value) :: next :: rest =>
    prettyFields
      ((prettyAfter (text ++ indentation depth ++ quote name ++ ": ") depth value).push ',')
      depth (next :: rest)

end

/-- A value without any blank. -/
def compact (value : Json) : String :=
  compactAfter "" value

/-- A value with one item or field to a line. -/
def pretty (value : Json) : String :=
  prettyAfter "" 0 value

end EpsBridge.Json
