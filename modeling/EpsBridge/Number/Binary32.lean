import EpsBridge.Number.Binary64

/-!
# Products of 32-bit floating point

A preview scale arrives as the bits of a binary32 number.  The resolution it
asks for is a product in the same format, rounded to the nearest number of the
format, then to the nearest integer.
-/

namespace EpsBridge.Binary32

/-- What a bit pattern denotes. -/
inductive Value where
  /-- A finite number `± significand · 2 ^ exponent`. -/
  | finite (negative : Bool) (significand : Nat) (exponent : Int)
  | infinite (negative : Bool)
  | notANumber
deriving DecidableEq, Repr

/-- Decodes sign, exponent and fraction. -/
def ofBits (bits : UInt32) : Value :=
  let negative := bits.toNat >>> 31 = 1
  let exponent := (bits.toNat >>> 23) % 256
  let fraction := bits.toNat % (1 <<< 23)
  if exponent = 255 then
    if fraction = 0 then .infinite negative else .notANumber
  else if exponent = 0 then .finite negative fraction (-149)
  else .finite negative ((1 <<< 23) + fraction) (Int.ofNat exponent - 150)

/-- The product of a natural number and a positive binary32 number, rounded to
the format.  Nothing is returned where the product overflows. -/
def scaleBy? (factor significand : Nat) (exponent : Int) : Option Binary64.Magnitude :=
  let product := Binary64.nearest 24 (-149)
    ((factor * significand) <<< exponent.toNat) (1 <<< (-exponent).toNat)
  if 1 <<< 128 ≤ product.truncate then none else some product

/-- The nearest integer, halves upwards. -/
def roundHalfUp (value : Binary64.Magnitude) : Nat :=
  let scaled := value.significand <<< value.exponent.toNat
  let unit := 1 <<< (-value.exponent).toNat
  (2 * scaled + unit) / (2 * unit)

/-- The integer nearest to `factor` times the number of a bit pattern, clamped
to 32 bits.  Patterns that denote no positive number, and products beyond the
format, give zero. -/
def scaledInteger (factor : Nat) (bits : UInt32) : UInt32 :=
  match ofBits bits with
  | .finite false significand exponent =>
    match scaleBy? factor significand exponent with
    | some product => UInt32.ofNat (min (roundHalfUp product) (UInt32.size - 1))
    | none => 0
  | _ => 0

end EpsBridge.Binary32
