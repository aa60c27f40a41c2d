/-!
# Decimal integers

Reading and writing integers in decimal.  A reader takes the whole text or
nothing: at least one ASCII digit, a sign only where the reader names one, and
no blank.  Numbers are read up to a ceiling, beyond which no one tells them apart,
so that a long run of digits costs no more than its length.  Writers give the
shortest form, or pad it with zeros to a width that counts the minus sign.
-/

namespace EpsBridge.Decimal

/-- Whether a character is an ASCII digit. -/
def isDigit (c : Char) : Bool :=
  '0' ≤ c && c ≤ '9'

/-- The value of an ASCII digit. -/
def digitValue (c : Char) : Nat :=
  c.toNat - '0'.toNat

/-- The number that a run of digits denotes. -/
def ofDigits (digits : List Char) : Nat :=
  digits.foldl (fun value c => 10 * value + digitValue c) 0

/-- The number that a run of digits denotes, as far as that stays below a ceiling:
once the ceiling is reached, further digits are passed over. -/
def ofDigitsUpTo (ceiling : Nat) (digits : List Char) : Nat :=
  digits.foldl (fun value c => if ceiling ≤ value then value else 10 * value + digitValue c) 0

/-- Reads one or more digits and nothing else, up to a ceiling. -/
def readDigitsUpTo? (ceiling : Nat) (text : List Char) : Option Nat :=
  if text.isEmpty || !text.all isDigit then none else some (ofDigitsUpTo ceiling text)

/-- A number beyond every range of integers: ten to the twentieth power. -/
def integerCeiling : Nat := 100000000000000000000

/-- Reads one or more digits and nothing else, as far as integers go. -/
def readDigits? (text : List Char) : Option Nat :=
  readDigitsUpTo? integerCeiling text

/-- Reads digits with an optional plus sign. -/
def readNatural? : List Char → Option Nat
  | '+' :: digits => readDigits? digits
  | digits => readDigits? digits

/-- Reads digits with an optional sign. -/
def readInteger? : List Char → Option Int
  | '+' :: digits => (readDigits? digits).map Int.ofNat
  | '-' :: digits => (readDigits? digits).map (fun n => -Int.ofNat n)
  | digits => (readDigits? digits).map Int.ofNat

/-- The 32-bit integer of a value, if it is in range. -/
def int32? (value : Int) : Option Int32 :=
  if Int32.minValue.toInt ≤ value && value ≤ Int32.maxValue.toInt then
    some (Int32.ofInt value)
  else none

/-- The unsigned 32-bit integer of a value, if it is in range. -/
def uint32? (value : Int) : Option UInt32 :=
  if 0 ≤ value && value < Int.ofNat UInt32.size then some (UInt32.ofNat value.toNat) else none

/-- The nearest 32-bit integer. -/
def clampInt32 (value : Int) : Int32 :=
  if value ≤ Int32.minValue.toInt then Int32.minValue
  else if Int32.maxValue.toInt ≤ value then Int32.maxValue
  else Int32.ofInt value

/-- Reads a 32-bit integer with an optional sign. -/
def readInt32? (text : List Char) : Option Int32 :=
  (readInteger? text).bind int32?

/-- Reads an unsigned 32-bit integer with an optional plus sign. -/
def readUInt32? (text : List Char) : Option UInt32 :=
  (readNatural? text).bind (fun n => uint32? (Int.ofNat n))

/-- The shortest decimal form of a natural number. -/
def ofNat (value : Nat) : String :=
  Nat.repr value

/-- The shortest decimal form of an integer. -/
def ofInt : Int → String
  | .ofNat n => Nat.repr n
  | .negSucc n => "-" ++ Nat.repr (n + 1)

/-- The decimal form of a 32-bit integer. -/
def ofInt32 (value : Int32) : String :=
  ofInt value.toInt

/-- The decimal form with zeros between sign and digits up to `width`
characters, the sign counted. -/
def padded (width : Nat) (value : Int) : String :=
  let digits := Nat.repr value.natAbs
  let sign := if value < 0 then "-" else ""
  let zeros := width - (sign.length + digits.length)
  sign ++ String.ofList (List.replicate zeros '0') ++ digits

end EpsBridge.Decimal
