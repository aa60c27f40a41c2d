import EpsBridge.Number.Decimal

/-!
# Decimal fractions as 64-bit floating point

Header comments give fractional boxes as decimal text.  Such a text denotes the
binary64 number nearest to it, ties to the even significand, and a box keeps
the integer part of that number.  Rounding matters: a fraction a hair below an
integer may be nearest to the integer itself.

Arithmetic is exact, on natural numbers.  A shift to the left multiplies by a
power of two, and one to the right divides by it.
-/

namespace EpsBridge.Binary64

/-- A decimal text as a number: `digits · 10 ^ exponent`, or its negative. -/
structure Literal where
  negative : Bool
  digits : Nat
  exponent : Int
deriving DecidableEq, Repr

/-- The number of significant digits that a literal keeps.  No midpoint between
neighbours of the format has as many. -/
def digitLimit : Nat := 800

/-- The literal of the digits in front of the point and behind it.  Of digits
beyond the limit it only matters whether one of them is not zero, so a single
digit stands for them. -/
def Literal.ofParts (negative : Bool) (whole fraction : List Char) (exponent : Int) : Literal :=
  let significant := (whole ++ fraction).dropWhile (· = '0')
  let kept := Decimal.ofDigits (significant.take digitLimit)
  let beyond := significant.drop digitLimit
  let scale := exponent - fraction.length + beyond.length
  if beyond.all (· = '0') then ⟨negative, kept, scale⟩
  else ⟨negative, 10 * kept + 1, scale - 1⟩

/-- Where exponents stop growing: the digits behind are passed over. -/
def exponentCeiling : Nat := 0x10000

/-- Reads the digits of an exponent with an optional sign. -/
def readPower? : List Char → Option Int
  | '+' :: digits => (Decimal.readDigitsUpTo? exponentCeiling digits).map Int.ofNat
  | '-' :: digits => (Decimal.readDigitsUpTo? exponentCeiling digits).map fun n => -Int.ofNat n
  | digits => (Decimal.readDigitsUpTo? exponentCeiling digits).map Int.ofNat

/-- Reads the exponent part of a literal: empty, or `e` and a signed integer. -/
def readExponent? : List Char → Option Int
  | [] => some 0
  | c :: rest => if c = 'e' || c = 'E' then readPower? rest else none

/-- Reads a literal without its sign: digits with an optional point, at least
one digit in all, then an optional exponent. -/
def readUnsigned? (negative : Bool) (text : List Char) : Option Literal :=
  let whole := text.takeWhile Decimal.isDigit
  let rest := text.dropWhile Decimal.isDigit
  let fraction := match rest with
    | '.' :: tail => tail.takeWhile Decimal.isDigit
    | _ => []
  let rest := match rest with
    | '.' :: tail => tail.dropWhile Decimal.isDigit
    | _ => rest
  if whole.isEmpty && fraction.isEmpty then none
  else (readExponent? rest).map (Literal.ofParts negative whole fraction)

/-- Reads a literal.  The words for infinity and for no number are refused, as
they denote no finite value. -/
def readLiteral? : List Char → Option Literal
  | '+' :: rest => readUnsigned? false rest
  | '-' :: rest => readUnsigned? true rest
  | text => readUnsigned? false text

/-- The quotient rounded to the nearest natural number, ties to even. -/
def roundDiv (numerator denominator : Nat) : Nat :=
  let quotient := numerator / denominator
  let remainder := numerator % denominator
  if 2 * remainder < denominator then quotient
  else if denominator < 2 * remainder then quotient + 1
  else quotient + quotient % 2

/-- A nonnegative number `significand · 2 ^ exponent`. -/
structure Magnitude where
  significand : Nat
  exponent : Int
deriving DecidableEq, Repr

/-- The exponent that gives a positive quotient a significand of `precision`
bits, but none below `least`. -/
def scaleOf (precision : Nat) (least : Int) (numerator denominator : Nat) : Int :=
  let guess : Int := Int.ofNat numerator.log2 - Int.ofNat denominator.log2 - (precision - 1 : Nat)
  let scaled := numerator <<< (-guess).toNat
  let limit := denominator <<< (guess.toNat + (precision - 1))
  max least (if scaled < limit then guess - 1 else guess)

/-- The number of a binary format nearest to a quotient, ties to even. -/
def nearest (precision : Nat) (least : Int) (numerator denominator : Nat) : Magnitude :=
  if numerator = 0 then ⟨0, 0⟩
  else
    let scale := scaleOf precision least numerator denominator
    ⟨roundDiv (numerator <<< (-scale).toNat) (denominator <<< scale.toNat), scale⟩

/-- The integer part of a magnitude. -/
def Magnitude.truncate (value : Magnitude) : Nat :=
  (value.significand <<< value.exponent.toNat) >>> (-value.exponent).toNat

/-- Powers of ten beyond this one leave the range of the format, whatever the
digits are, once the digits' own length is counted. -/
def exponentLimit : Int := 400

/-- The magnitude of a literal, and nothing where it is beyond the largest
finite number. -/
def Literal.magnitude? (literal : Literal) : Option Magnitude :=
  let length : Int := Int.ofNat (Nat.repr literal.digits).length
  if literal.digits = 0 || literal.exponent + length < -exponentLimit then some ⟨0, 0⟩
  else if exponentLimit < literal.exponent + length then none
  else
    let value := nearest 53 (-1074)
      (literal.digits * Nat.pow 10 literal.exponent.toNat)
      (Nat.pow 10 (-literal.exponent).toNat)
    if 1 <<< 1024 ≤ value.truncate then none else some value

/-- Reads a finite number and keeps its integer part, clamped to 32 bits. -/
def readTruncated? (text : List Char) : Option Int32 := do
  let literal ← readLiteral? text
  let magnitude ← literal.magnitude?
  let whole := Int.ofNat magnitude.truncate
  return Decimal.clampInt32 (if literal.negative then -whole else whole)

end EpsBridge.Binary64
