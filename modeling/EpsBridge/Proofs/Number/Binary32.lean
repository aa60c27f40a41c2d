import EpsBridge.Number.Binary32
import EpsBridge.Proofs.Number.Binary64

/-!
# Products of 32-bit floating point, by their numbers

A bit pattern denotes a number, or none (`Value.number?`), and the patterns of numbers that are
not negative are in the order of these numbers (`number?_of_le`).  What a product comes to as an
integer is a function of the numbers (`scaledInteger_eq`): below the overflow it grows with them
(`scaledInteger_le_scaledInteger`), and from there on it is zero
(`scaledInteger_of_overflow_le`).
-/

namespace EpsBridge.Binary32

open Binary64

/-- The number that a value is, if it is one. -/
def Value.number? : Value → Option ℚ
  | .finite negative significand exponent =>
      some (if negative then -(⟨significand, exponent⟩ : Magnitude).number
        else (⟨significand, exponent⟩ : Magnitude).number)
  | _ => none

/-- Half a unit in the last place below the power of two behind the largest number of the
format.  What is not below it is rounded to that power. -/
def overflow : ℚ :=
  2 ^ 128 - 2 ^ 103

/-! ## Order of patterns -/

/-- The pattern of infinity, which is behind those of all numbers that are not negative. -/
def infinityBits : UInt32 := 0x7f800000

/-- The number of an exponent field and a fraction field. -/
def ofFields (exponent fraction : Nat) : ℚ :=
  if exponent = 0 then fraction * 2 ^ (-149 : Int)
  else (2 ^ 23 + fraction) * 2 ^ (exponent - 150 : Int)

theorem ofFields_nonneg (exponent fraction : Nat) : 0 ≤ ofFields exponent fraction := by
  unfold ofFields
  split <;> positivity

theorem number?_ofBits {bits : UInt32} (hbits : bits < infinityBits) :
    (ofBits bits).number? = some (ofFields (bits.toNat / 2 ^ 23) (bits.toNat % 2 ^ 23)) := by
  have hbelow : bits.toNat < 0x7f800000 := hbits
  have hsign : bits.toNat >>> 31 ≠ 1 := by
    rw [Nat.shiftRight_eq_div_pow]
    omega
  have hexponent : (bits.toNat >>> 23) % 256 = bits.toNat / 2 ^ 23 := by
    rw [Nat.shiftRight_eq_div_pow]
    omega
  have hfinite : bits.toNat / 2 ^ 23 ≠ 255 := by omega
  simp only [ofBits, hsign, hexponent, hfinite, Nat.one_shiftLeft, ofFields, if_false]
  split
  · rfl
  · norm_num [Value.number?, Magnitude.number]

theorem ofFields_lt {exponent fraction : Nat} (hfraction : fraction < 2 ^ 23) :
    ofFields exponent fraction < 2 ^ (exponent - 126 : Int) := by
  have hcast : (fraction : ℚ) < 2 ^ 23 := by exact_mod_cast hfraction
  unfold ofFields
  split
  · next hzero =>
      rw [hzero]
      calc (fraction : ℚ) * 2 ^ (-149 : Int) < 2 ^ 23 * 2 ^ (-149 : Int) := by gcongr
        _ = 2 ^ ((0 : Nat) - 126 : Int) := by norm_num
  · calc (2 ^ 23 + fraction : ℚ) * 2 ^ (exponent - 150 : Int)
        < (2 ^ 23 + 2 ^ 23) * 2 ^ (exponent - 150 : Int) := by gcongr
      _ = 2 ^ (24 : Int) * 2 ^ (exponent - 150 : Int) := by norm_num
      _ = 2 ^ (exponent - 126 : Int) := by
          rw [← zpow_add₀ two_ne_zero]
          congr 1
          ring

theorem le_ofFields {exponent : Nat} (hpos : 0 < exponent) (fraction : Nat) :
    2 ^ (exponent - 127 : Int) ≤ ofFields exponent fraction := by
  unfold ofFields
  rw [if_neg hpos.ne']
  calc (2 : ℚ) ^ (exponent - 127 : Int) = 2 ^ (23 : Int) * 2 ^ (exponent - 150 : Int) := by
        rw [← zpow_add₀ two_ne_zero]
        congr 1
        ring
    _ ≤ (2 ^ 23 + fraction) * 2 ^ (exponent - 150 : Int) := by
        gcongr
        norm_num

/-- Patterns are read from the exponent down, so they are in the order of their numbers. -/
theorem ofFields_le_ofFields {bits bits' : Nat} (hle : bits ≤ bits') :
    ofFields (bits / 2 ^ 23) (bits % 2 ^ 23) ≤ ofFields (bits' / 2 ^ 23) (bits' % 2 ^ 23) := by
  have hexponent : bits / 2 ^ 23 ≤ bits' / 2 ^ 23 := Nat.div_le_div_right hle
  rcases hexponent.eq_or_lt with hsame | hless
  · have hfraction : bits % 2 ^ 23 ≤ bits' % 2 ^ 23 := by omega
    rw [hsame]
    unfold ofFields
    split <;> gcongr
  · calc ofFields (bits / 2 ^ 23) (bits % 2 ^ 23)
        ≤ 2 ^ ((bits / 2 ^ 23 : Nat) - 126 : Int) := (ofFields_lt (Nat.mod_lt _ (by decide))).le
      _ ≤ 2 ^ ((bits' / 2 ^ 23 : Nat) - 127 : Int) := zpow_le_zpow_right₀ one_le_two (by omega)
      _ ≤ ofFields (bits' / 2 ^ 23) (bits' % 2 ^ 23) := le_ofFields (by omega) _

/-- Numbers that are not negative are in the order of their patterns. -/
theorem number?_of_le {bits bits' : UInt32} (hle : bits ≤ bits') (hbits : bits' < infinityBits) :
    ∃ x y, (ofBits bits).number? = some x ∧ (ofBits bits').number? = some y ∧ 0 ≤ x ∧ x ≤ y :=
  ⟨_, _, number?_ofBits (UInt32.lt_of_le_of_lt hle hbits), number?_ofBits hbits,
    ofFields_nonneg _ _, ofFields_le_ofFields hle⟩

/-! ## Products -/

theorem overflow_le_iff {q : ℚ} (hq : 0 ≤ q) :
    overflow ≤ q ↔ 2 ^ 128 ≤ rounded 24 (-149) q := by
  have hreached : 2 ^ ((104 : Int) + (24 : Nat)) ≤ rounded 24 (-149) q ↔ _ :=
    two_zpow_le_rounded_iff (by decide) (by decide) hq
  have htie : ((2 : ℚ) ^ 24 - 1 / 2) * 2 ^ (104 : Int) = overflow := by norm_num [overflow]
  have hpower : (2 : ℚ) ^ ((104 : Int) + (24 : Nat)) = 2 ^ 128 := by norm_num
  rw [← hpower, hreached, htie]

/-- A product before the check for overflow. -/
theorem number_product (factor : Nat) (value : Magnitude) :
    (nearest 24 (-149) ((factor * value.significand) <<< value.exponent.toNat)
      (1 <<< (-value.exponent).toNat)).number = rounded 24 (-149) (factor * value.number) := by
  have hunit : 0 < 1 <<< (-value.exponent).toNat := Nat.shiftLeft_pos_iff.mpr one_pos
  have hdiv := shiftLeft_div_shiftLeft (factor * value.significand) 1 (-value.exponent)
  rw [neg_neg] at hdiv
  rw [number_nearest _ _ _ hunit, hdiv, Magnitude.number, Nat.cast_mul, Nat.cast_one, div_one,
    zpow_neg, div_inv_eq_mul, mul_assoc]

theorem scaleBy?_eq_none_iff (factor : Nat) (value : Magnitude) :
    scaleBy? factor value.significand value.exponent = none ↔
      overflow ≤ factor * value.number := by
  have hnonneg : 0 ≤ factor * value.number := mul_nonneg factor.cast_nonneg value.number_nonneg
  have hpower : ((1 <<< 128 : Nat) : ℚ) = 2 ^ 128 := by
    rw [Nat.one_shiftLeft, Nat.cast_pow, Nat.cast_two]
  rw [overflow_le_iff hnonneg, ← number_product, ← hpower, ← Nat.le_floor_iff,
    ← Magnitude.truncate_eq_floor]
  · unfold scaleBy?
    dsimp only
    split <;> simp_all
  · rw [number_product]
    exact rounded_nonneg

theorem number_of_scaleBy? {factor : Nat} {value product : Magnitude}
    (hproduct : scaleBy? factor value.significand value.exponent = some product) :
    product.number = rounded 24 (-149) (factor * value.number) := by
  unfold scaleBy? at hproduct
  dsimp only at hproduct
  split at hproduct
  · cases hproduct
  · cases hproduct
    exact number_product factor value

theorem roundHalfUp_eq_floor (value : Magnitude) :
    roundHalfUp value = ⌊value.number + 1 / 2⌋₊ := by
  have hpos : (0 : ℚ) < (1 <<< (-value.exponent).toNat : Nat) :=
    Nat.cast_pos.mpr (Nat.shiftLeft_pos_iff.mpr one_pos)
  rw [Magnitude.number_eq_div, div_add_div _ _ hpos.ne' two_ne_zero]
  unfold roundHalfUp
  rw [← Nat.floor_div_eq_div (K := ℚ)]
  push_cast
  congr 1
  ring

/-- What a rounded product is as an integer of 32 bits. -/
def toUInt32 (product : ℚ) : UInt32 :=
  UInt32.ofNat (min ⌊product + 1 / 2⌋₊ (UInt32.size - 1))

@[simp] theorem toUInt32_zero : toUInt32 0 = 0 := by
  have hhalf : ⌊(0 + 1 / 2 : ℚ)⌋₊ = 0 := Nat.floor_eq_zero.mpr (by norm_num)
  rw [toUInt32, hhalf]
  rfl

theorem toUInt32_le_toUInt32 {p q : ℚ} (hle : p ≤ q) : toUInt32 p ≤ toUInt32 q := by
  have hinteger : ⌊p + 1 / 2⌋₊ ≤ ⌊q + 1 / 2⌋₊ := Nat.floor_mono (by linarith)
  have hfits (n : Nat) : min n (UInt32.size - 1) < UInt32.size := by
    rw [UInt32.size]
    omega
  unfold toUInt32
  rw [UInt32.le_iff_toNat_le, UInt32.toNat_ofNat_of_lt' (hfits _),
    UInt32.toNat_ofNat_of_lt' (hfits _)]
  exact min_le_min_right _ hinteger

/-- An integer product is a function of the number. -/
theorem scaledInteger_eq (factor : Nat) {bits : UInt32} {x : ℚ}
    (hnumber : (ofBits bits).number? = some x) (hx : 0 ≤ x) :
    scaledInteger factor bits =
      if factor * x < overflow then toUInt32 (rounded 24 (-149) (factor * x)) else 0 := by
  unfold scaledInteger
  match hbits : ofBits bits with
  | .finite false significand exponent =>
      let value : Magnitude := ⟨significand, exponent⟩
      rw [hbits] at hnumber
      obtain rfl : value.number = x := Option.some.inj hnumber
      cases hproduct : scaleBy? factor significand exponent with
      | none =>
          have hover := (scaleBy?_eq_none_iff factor value).mp hproduct
          rw [if_neg (not_lt.mpr hover)]
          simp only [hproduct]
      | some product =>
          have hbelow : factor * value.number < overflow := by
            rw [← not_le, ← scaleBy?_eq_none_iff, hproduct]
            exact Option.some_ne_none product
          have hrounded : product.number = rounded 24 (-149) (factor * value.number) :=
            number_of_scaleBy? hproduct
          rw [if_pos hbelow, ← hrounded, toUInt32, ← roundHalfUp_eq_floor]
          simp only [hproduct]
  | .finite true significand exponent =>
      -- the only such number is the zero with a sign
      let value : Magnitude := ⟨significand, exponent⟩
      rw [hbits] at hnumber
      obtain rfl : -value.number = x := Option.some.inj hnumber
      have hnonneg := value.number_nonneg
      have hzero : value.number = 0 := by linarith
      rw [hzero, neg_zero, mul_zero, rounded_zero, if_pos (by norm_num [overflow]), toUInt32_zero]
  | .infinite _ | .notANumber =>
      rw [hbits] at hnumber
      cases hnumber

theorem scaledInteger_le_scaledInteger (factor : Nat) {bits bits' : UInt32} {x y : ℚ}
    (hnumber : (ofBits bits).number? = some x) (hnumber' : (ofBits bits').number? = some y)
    (hx : 0 ≤ x) (hle : x ≤ y) (hbelow : factor * y < overflow) :
    scaledInteger factor bits ≤ scaledInteger factor bits' := by
  have hproduct : (factor * x : ℚ) ≤ factor * y := by gcongr
  rw [scaledInteger_eq factor hnumber hx, scaledInteger_eq factor hnumber' (hx.trans hle),
    if_pos (hproduct.trans_lt hbelow), if_pos hbelow]
  exact toUInt32_le_toUInt32 (rounded_le_rounded (by decide) (by positivity) hproduct)

theorem scaledInteger_of_overflow_le (factor : Nat) {bits : UInt32} {x : ℚ}
    (hnumber : (ofBits bits).number? = some x) (hx : 0 ≤ x) (hover : overflow ≤ factor * x) :
    scaledInteger factor bits = 0 := by
  rw [scaledInteger_eq factor hnumber hx, if_neg (not_lt.mpr hover)]

end EpsBridge.Binary32
