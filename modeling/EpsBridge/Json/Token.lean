import EpsBridge.Number.Decimal

/-!
# The tokens of JSON text

The lexer is a fold over the characters: between tokens, within a word, or
within a string.  A word is a maximal run of letters, digits, signs and points,
and is judged when it ends.
-/

namespace EpsBridge.Json

/-- A token. -/
inductive Token where
  | openObject
  | closeObject
  | openArray
  | closeArray
  | colon
  | comma
  | null
  | bool (value : Bool)
  | integer (value : Int)
  | real (literal : String)
  /-- A string, or nothing where it holds half of a surrogate pair. -/
  | string (text : Option String)
deriving Repr

/-- A string being read.  Its characters come last first. -/
structure OpenString where
  characters : List Char
  /-- The first half of a surrogate pair whose second half must follow. -/
  half : Option Nat
  /-- Whether a half has been seen without the other. -/
  broken : Bool
deriving Repr

namespace OpenString

/-- Nothing read yet. -/
def start : OpenString := ⟨[], none, false⟩

/-- Reads a character. -/
def push (text : OpenString) (c : Char) : OpenString :=
  ⟨c :: text.characters, none, text.broken || text.half.isSome⟩

/-- Reads the code of a `\u` escape. -/
def pushCode (text : OpenString) (code : Nat) : OpenString :=
  if 0xD800 ≤ code && code < 0xDC00 then
    ⟨text.characters, some code, text.broken || text.half.isSome⟩
  else if 0xDC00 ≤ code && code < 0xE000 then
    match text.half with
    | some first =>
      let character := Char.ofNat (0x10000 + (first - 0xD800) * 0x400 + (code - 0xDC00))
      ⟨character :: text.characters, none, text.broken⟩
    | none => ⟨text.characters, none, true⟩
  else text.push (Char.ofNat code)

/-- The string as a token. -/
def close (text : OpenString) : Token :=
  if text.broken || text.half.isSome then .string none
  else .string (some (String.ofList text.characters.reverse))

end OpenString

/-- Where the lexer stands. -/
inductive LexerState where
  | between
  /-- Within a word; its characters come last first. -/
  | word (characters : List Char)
  | text (opened : OpenString)
  /-- After a backslash. -/
  | escape (opened : OpenString)
  /-- Within the hexadecimal digits of an escape, of which `due` are missing. -/
  | unicode (opened : OpenString) (due code : Nat)
deriving Repr

/-- Whether a character is blank between tokens. -/
def isGap (c : Char) : Bool :=
  c = ' ' || c = '\t' || c = '\n' || c = '\r'

/-- Whether a character belongs to words. -/
def isWordPart (c : Char) : Bool :=
  c.isAlphanum || c = '+' || c = '-' || c = '.'

/-- The token of a single character. -/
def mark? : Char → Option Token
  | '\x7b' => some .openObject
  | '\x7d' => some .closeObject
  | '[' => some .openArray
  | ']' => some .closeArray
  | ':' => some .colon
  | ',' => some .comma
  | _ => none

/-- Whether digits can stand before the point: no zero in front of others. -/
def isWhole : List Char → Bool
  | [] => false
  | '0' :: rest => rest.isEmpty
  | digits => digits.all Decimal.isDigit

/-- Whether a text is the exponent of a number, or empty. -/
def isExponent : List Char → Bool
  | [] => true
  | c :: rest =>
    (c = 'e' || c = 'E') &&
      let digits := match rest with
        | '+' :: digits => digits
        | '-' :: digits => digits
        | digits => digits
      !digits.isEmpty && digits.all Decimal.isDigit

/-- Whether a text is the fraction and exponent of a number, either of them
possibly empty. -/
def isFraction : List Char → Bool
  | '.' :: rest =>
    !(rest.takeWhile Decimal.isDigit).isEmpty && isExponent (rest.dropWhile Decimal.isDigit)
  | rest => isExponent rest

/-- The token of a number. -/
def number? (literal : List Char) : Option Token :=
  let negative := literal.head? = some '-'
  let unsigned := if negative then literal.drop 1 else literal
  let whole := unsigned.takeWhile Decimal.isDigit
  let rest := unsigned.dropWhile Decimal.isDigit
  if !isWhole whole || !isFraction rest then none
  else
    let value := Decimal.ofDigitsUpTo Decimal.integerCeiling whole
    if rest.isEmpty && !(negative && value = 0) then
      some (.integer (if negative then -Int.ofNat value else Int.ofNat value))
    else some (.real (String.ofList literal))

/-- The token of a word. -/
def word? (characters : List Char) : Option Token :=
  match String.ofList characters with
  | "null" => some .null
  | "true" => some (.bool true)
  | "false" => some (.bool false)
  | _ => number? characters

/-- The character of a simple escape. -/
def escaped? : Char → Option Char
  | '"' => some '"'
  | '\\' => some '\\'
  | '/' => some '/'
  | 'b' => some '\x08'
  | 'f' => some '\x0c'
  | 'n' => some '\n'
  | 'r' => some '\r'
  | 't' => some '\t'
  | _ => none

/-- The value of a hexadecimal digit. -/
def hexDigit? (c : Char) : Option Nat :=
  if '0' ≤ c && c ≤ '9' then some (c.toNat - '0'.toNat)
  else if 'a' ≤ c && c ≤ 'f' then some (c.toNat - 'a'.toNat + 10)
  else if 'A' ≤ c && c ≤ 'F' then some (c.toNat - 'A'.toNat + 10)
  else none

/-- The lexer: its state and the tokens read so far, last first. -/
structure Lexer where
  state : LexerState
  tokens : List Token
deriving Repr

namespace Lexer

/-- Nothing read yet. -/
def start : Lexer := ⟨.between, []⟩

/-- Reads a character that begins a token or is blank. -/
def begin? (tokens : List Token) (c : Char) : Option Lexer :=
  if isGap c then some ⟨.between, tokens⟩
  else if c = '"' then some ⟨.text .start, tokens⟩
  else if isWordPart c then some ⟨.word [c], tokens⟩
  else (mark? c).map fun token => ⟨.between, token :: tokens⟩

/-- Reads one character. -/
def step? (lexer : Lexer) (c : Char) : Option Lexer :=
  match lexer.state with
  | .between => begin? lexer.tokens c
  | .word characters =>
    if isWordPart c then some ⟨.word (c :: characters), lexer.tokens⟩
    else (word? characters.reverse).bind fun token => begin? (token :: lexer.tokens) c
  | .text opened =>
    if c = '"' then some ⟨.between, opened.close :: lexer.tokens⟩
    else if c = '\\' then some ⟨.escape opened, lexer.tokens⟩
    else if c.toNat < 0x20 then none
    else some ⟨.text (opened.push c), lexer.tokens⟩
  | .escape opened =>
    if c = 'u' then some ⟨.unicode opened 4 0, lexer.tokens⟩
    else (escaped? c).map fun character => ⟨.text (opened.push character), lexer.tokens⟩
  | .unicode opened due code =>
    (hexDigit? c).map fun digit =>
      let code := 16 * code + digit
      if due ≤ 1 then ⟨.text (opened.pushCode code), lexer.tokens⟩
      else ⟨.unicode opened (due - 1) code, lexer.tokens⟩

/-- The tokens once no character follows. -/
def finish? (lexer : Lexer) : Option (List Token) :=
  match lexer.state with
  | .between => some lexer.tokens.reverse
  | .word characters =>
    (word? characters.reverse).map fun token => (token :: lexer.tokens).reverse
  | _ => none

end Lexer

/-- The tokens of a text. -/
def tokens? (text : String) : Option (List Token) :=
  (text.foldl (fun lexer c => lexer.bind (·.step? c)) (some Lexer.start)).bind Lexer.finish?

end EpsBridge.Json
