import EpsBridge.Number.Binary64
import Mathlib.Algebra.Order.Field.Power
import Mathlib.Algebra.Order.Floor.Semifield
import Mathlib.Data.Int.Log
import Mathlib.Data.Rat.Floor
import Mathlib.Tactic.FieldSimp
import Mathlib.Tactic.GCongr
import Mathlib.Tactic.Linarith
import Mathlib.Tactic.Positivity
import Mathlib.Tactic.Ring

/-!
# Rounding to a binary format

The arithmetic of a format is done on natural numbers and shifts.  What it comes to depends on
the quotient alone: the logarithm gives the exponent of the last place (`exponentOf`), and the
significand is the integer nearest to the quotient in units of that place (`roundEven`).  So a
numerator and a denominator give the number `rounded` of their quotient (`number_nearest`).

That number grows with the quotient (`rounded_le_rounded`), also where the exponent changes:
below the change it is `2 ^ (exponent + precision)` at most, and above it is at least half as
much in units that are at least twice as large.  For the same reason a power of two is reached
from half a unit below it on (`two_zpow_le_rounded_iff`), and this is where a format overflows.
-/

namespace EpsBridge.Binary64

/-! ## Nearest integers -/

/-- The natural number nearest to a rational number, ties to even. -/
def roundEven (q : ℚ) : Nat :=
  if 2 * (q - ⌊q⌋₊) < 1 then ⌊q⌋₊
  else if 1 < 2 * (q - ⌊q⌋₊) then ⌊q⌋₊ + 1
  else ⌊q⌋₊ + ⌊q⌋₊ % 2

theorem roundDiv_eq_roundEven (numerator : Nat) {denominator : Nat} (hpos : 0 < denominator) :
    roundDiv numerator denominator = roundEven (numerator / denominator) := by
  have hpos' : (0 : ℚ) < denominator := Nat.cast_pos.mpr hpos
  have hfloor : ⌊(numerator / denominator : ℚ)⌋₊ = numerator / denominator :=
    Nat.floor_div_eq_div _ _
  have hrest : 2 * ((numerator / denominator : ℚ) - (numerator / denominator : Nat)) =
      (2 * (numerator % denominator) : Nat) / denominator := by
    have hparts : (numerator : ℚ) =
        denominator * (numerator / denominator : Nat) + (numerator % denominator : Nat) := by
      exact_mod_cast (Nat.div_add_mod numerator denominator).symm
    rw [eq_div_iff hpos'.ne', mul_assoc, sub_mul, div_mul_cancel₀ _ hpos'.ne']
    push_cast
    linarith
  simp only [roundDiv, roundEven, hfloor, hrest, div_lt_one hpos', one_lt_div hpos', Nat.cast_lt]

/-- No other natural number is as near, or the one at hand is even. -/
theorem roundEven_spec {q : ℚ} (hq : 0 ≤ q) :
    (2 * q - 1 < 2 * roundEven q ∧ (2 * roundEven q : ℚ) < 2 * q + 1) ∨
      Even (roundEven q) ∧
        ((2 * roundEven q : ℚ) = 2 * q - 1 ∨ (2 * roundEven q : ℚ) = 2 * q + 1) := by
  have hbelow := Nat.floor_le hq
  have habove := Nat.lt_floor_add_one q
  unfold roundEven
  split
  · next hlow => exact .inl ⟨by linarith, by linarith⟩
  · split
    · next hhigh =>
        push_cast
        exact .inl ⟨by linarith, by linarith⟩
    · next hlow hhigh =>
        have htie : 2 * (q - ⌊q⌋₊) = 1 := le_antisymm (not_lt.mp hhigh) (not_lt.mp hlow)
        refine .inr ⟨?_, ?_⟩
        · rw [Nat.even_iff]
          omega
        · rcases Nat.mod_two_eq_zero_or_one ⌊q⌋₊ with heven | hodd
          · rw [heven]
            push_cast
            exact .inl (by linarith)
          · rw [hodd]
            push_cast
            exact .inr (by linarith)

theorem roundEven_le_add_half {q : ℚ} (hq : 0 ≤ q) : (roundEven q : ℚ) ≤ q + 1 / 2 := by
  rcases roundEven_spec hq with ⟨-, h⟩ | ⟨-, h | h⟩ <;> linarith

theorem roundEven_le_roundEven {q r : ℚ} (hq : 0 ≤ q) (hle : q ≤ r) :
    roundEven q ≤ roundEven r := by
  by_contra hlt
  rw [not_le] at hlt
  have hsucc : (roundEven r + 1 : ℚ) ≤ roundEven q := by exact_mod_cast hlt
  rcases roundEven_spec hq with ⟨-, h⟩ | ⟨heven, h | h⟩ <;>
    rcases roundEven_spec (hq.trans hle) with ⟨h', -⟩ | ⟨heven', h' | h'⟩ <;>
    try linarith
  -- both are ties, at the same number between two neighbours, of which one is odd
  have hnext : roundEven q = roundEven r + 1 := by
    have : (roundEven q : ℚ) = roundEven r + 1 := by linarith
    exact_mod_cast this
  rw [hnext, Nat.even_add_one] at heven
  exact heven heven'

@[simp] theorem roundEven_natCast (n : Nat) : roundEven n = n := by
  simp [roundEven]

/-- The tie below an even number is rounded to it. -/
theorem roundEven_sub_half {n : Nat} (hpos : 0 < n) (heven : Even n) :
    roundEven (n - 1 / 2 : ℚ) = n := by
  have hone : (1 : ℚ) ≤ n := by exact_mod_cast hpos
  have hq : (0 : ℚ) ≤ n - 1 / 2 := by linarith
  rcases roundEven_spec hq with ⟨hlow, hhigh⟩ | ⟨heven', h | h⟩
  · have hlow' : (n : ℚ) < roundEven (n - 1 / 2 : ℚ) + 1 := by linarith
    have hhigh' : (roundEven (n - 1 / 2 : ℚ) : ℚ) < n := by linarith
    norm_cast at hlow' hhigh'
    omega
  · have hodd : (roundEven (n - 1 / 2 : ℚ) + 1 : ℚ) = n := by linarith
    norm_cast at hodd
    rw [← hodd, Nat.even_add_one] at heven
    exact absurd heven' heven
  · have hsame : (roundEven (n - 1 / 2 : ℚ) : ℚ) = n := by linarith
    exact_mod_cast hsame

/-! ## Shifts -/

/-- Two shifts by an exponent, one of which is by nothing, divide by its power. -/
theorem shiftLeft_div_shiftLeft (numerator denominator : Nat) (exponent : Int) :
    ((numerator <<< (-exponent).toNat : Nat) / (denominator <<< exponent.toNat : Nat) : ℚ) =
      numerator / denominator / 2 ^ exponent := by
  rw [Nat.shiftLeft_eq, Nat.shiftLeft_eq]
  push_cast
  rcases le_total 0 exponent with hpos | hneg
  · obtain ⟨n, rfl⟩ := Int.eq_ofNat_of_zero_le hpos
    simp [div_div]
  · obtain ⟨n, hn⟩ := Int.eq_ofNat_of_zero_le (Int.neg_nonneg_of_nonpos hneg)
    obtain rfl : exponent = -n := by omega
    simp
    ring

/-- The number that a magnitude is. -/
def Magnitude.number (value : Magnitude) : ℚ :=
  value.significand * 2 ^ value.exponent

theorem Magnitude.number_eq_div (value : Magnitude) :
    value.number =
      (value.significand <<< value.exponent.toNat : Nat) /
        (1 <<< (-value.exponent).toNat : Nat) := by
  have hdiv := shiftLeft_div_shiftLeft value.significand 1 (-value.exponent)
  rw [neg_neg, Nat.cast_one, div_one, zpow_neg, div_inv_eq_mul] at hdiv
  exact hdiv.symm

theorem Magnitude.truncate_eq_floor (value : Magnitude) :
    value.truncate = ⌊value.number⌋₊ := by
  rw [Magnitude.number_eq_div, Nat.floor_div_eq_div, Magnitude.truncate, Nat.shiftRight_eq_div_pow,
    Nat.one_shiftLeft]

theorem Magnitude.number_nonneg (value : Magnitude) : 0 ≤ value.number := by
  unfold Magnitude.number
  positivity

/-! ## Exponents -/

theorem two_zpow_add_natCast (exponent : Int) (n : Nat) :
    (2 : ℚ) ^ (exponent + n) = 2 ^ n * 2 ^ exponent := by
  rw [zpow_add₀ two_ne_zero, zpow_natCast, mul_comm]

/-- The exponent of the last place that a format has for a number. -/
def exponentOf (precision : Nat) (least : Int) (q : ℚ) : Int :=
  max least (Int.log 2 q - (precision - 1 : Nat))

theorem log_eq_of_bounds {q : ℚ} {k : Int} (hlow : 2 ^ k ≤ q) (hhigh : q < 2 ^ (k + 1)) :
    Int.log 2 q = k := by
  have hpos : 0 < q := lt_of_lt_of_le (by positivity) hlow
  have hle : k ≤ Int.log 2 q := (Int.zpow_le_iff_le_log one_lt_two hpos).mp hlow
  have hlt : Int.log 2 q < k + 1 := (Int.lt_zpow_iff_log_lt one_lt_two hpos).mp hhigh
  omega

/-- A quotient lies within a factor of two of the quotient of the leading bits. -/
theorem bounds_of_log2 {numerator denominator : Nat} (hn : 0 < numerator) (hd : 0 < denominator) :
    (2 : ℚ) ^ (numerator.log2 - denominator.log2 - 1 : Int) < numerator / denominator ∧
      (numerator / denominator : ℚ) < 2 ^ (numerator.log2 - denominator.log2 + 1 : Int) := by
  have hnlow : (2 ^ numerator.log2 : ℚ) ≤ numerator := by
    exact_mod_cast Nat.log2_self_le hn.ne'
  have hnhigh : (numerator : ℚ) < 2 ^ (numerator.log2 + 1) := by
    exact_mod_cast Nat.lt_log2_self
  have hdlow : (2 ^ denominator.log2 : ℚ) ≤ denominator := by
    exact_mod_cast Nat.log2_self_le hd.ne'
  have hdhigh : (denominator : ℚ) < 2 ^ (denominator.log2 + 1) := by
    exact_mod_cast Nat.lt_log2_self
  have hpos : (0 : ℚ) < denominator := Nat.cast_pos.mpr hd
  constructor
  · rw [lt_div_iff₀ hpos]
    calc (2 : ℚ) ^ (numerator.log2 - denominator.log2 - 1 : Int) * denominator
        < 2 ^ (numerator.log2 - denominator.log2 - 1 : Int) * 2 ^ (denominator.log2 + 1) := by
          gcongr
      _ = 2 ^ numerator.log2 := by
          rw [mul_comm, ← two_zpow_add_natCast, ← zpow_natCast]
          congr 1
          push_cast
          ring
      _ ≤ numerator := hnlow
  · rw [div_lt_iff₀ hpos]
    calc (numerator : ℚ) < 2 ^ (numerator.log2 + 1) := hnhigh
      _ = 2 ^ (numerator.log2 - denominator.log2 + 1 : Int) * 2 ^ denominator.log2 := by
          rw [mul_comm, ← two_zpow_add_natCast, ← zpow_natCast]
          congr 1
          push_cast
          ring
      _ ≤ 2 ^ (numerator.log2 - denominator.log2 + 1 : Int) * denominator := by
          gcongr

/-- The leading bits leave two logarithms open, and one comparison decides between them. -/
theorem scaleOf_eq_exponentOf (precision : Nat) (least : Int) {numerator denominator : Nat}
    (hn : 0 < numerator) (hd : 0 < denominator) :
    scaleOf precision least numerator denominator =
      exponentOf precision least (numerator / denominator) := by
  obtain ⟨hlow, hhigh⟩ := bounds_of_log2 hn hd
  have hdecides (guess : Int) : numerator <<< (-guess).toNat <
        denominator <<< (guess.toNat + (precision - 1)) ↔
      (numerator / denominator : ℚ) < 2 ^ (guess + (precision - 1 : Nat)) := by
    have hpos : (0 : ℚ) < (denominator <<< guess.toNat : Nat) :=
      Nat.cast_pos.mpr (Nat.shiftLeft_pos_iff.mpr hd)
    rw [Nat.shiftLeft_add, Nat.shiftLeft_eq _ (precision - 1), two_zpow_add_natCast,
      ← div_lt_iff₀ (by positivity), ← shiftLeft_div_shiftLeft, div_lt_iff₀ hpos, mul_comm]
    exact_mod_cast Iff.rfl
  unfold scaleOf exponentOf
  simp only [Int.ofNat_eq_natCast, hdecides, sub_add_cancel]
  split
  · next hless =>
      rw [log_eq_of_bounds hlow.le (by rwa [sub_add_cancel])]
      congr 1
      ring
  · next hmore => rw [log_eq_of_bounds (not_lt.mp hmore) hhigh]

variable {precision : Nat} {least : Int} {q r : ℚ}

theorem exponentOf_le_exponentOf (precision : Nat) (least : Int) (hq : 0 < q) (hle : q ≤ r) :
    exponentOf precision least q ≤ exponentOf precision least r := by
  have hlog : Int.log 2 q ≤ Int.log 2 r := Int.log_mono_right hq hle
  unfold exponentOf
  omega

theorem lt_two_zpow_exponentOf (hprecision : 0 < precision) :
    q < 2 ^ (exponentOf precision least q + precision) := by
  have hlog : Int.log 2 q + 1 ≤ exponentOf precision least q + precision := by
    unfold exponentOf
    omega
  calc q < 2 ^ (Int.log 2 q + 1) := Int.lt_zpow_succ_log_self one_lt_two q
    _ ≤ 2 ^ (exponentOf precision least q + precision) := zpow_le_zpow_right₀ one_le_two hlog

/-- Above the least exponent a significand has all its bits. -/
theorem two_zpow_exponentOf_le (hq : 0 < q) (hleast : least < exponentOf precision least q) :
    2 ^ (exponentOf precision least q + (precision - 1 : Nat)) ≤ q := by
  have hlog : exponentOf precision least q + (precision - 1 : Nat) = Int.log 2 q := by
    unfold exponentOf at hleast ⊢
    omega
  rw [hlog]
  exact Int.zpow_log_le_self one_lt_two hq

/-! ## Rounded numbers -/

/-- The number of a format that is nearest to `q`, ties to even. -/
def rounded (precision : Nat) (least : Int) (q : ℚ) : ℚ :=
  roundEven (q / 2 ^ exponentOf precision least q) * 2 ^ exponentOf precision least q

@[simp] theorem rounded_zero : rounded precision least 0 = 0 := by
  simp [rounded, roundEven]

theorem rounded_nonneg : 0 ≤ rounded precision least q := by
  unfold rounded
  positivity

theorem number_nearest (precision : Nat) (least : Int) (numerator : Nat) {denominator : Nat}
    (hd : 0 < denominator) :
    (nearest precision least numerator denominator).number =
      rounded precision least (numerator / denominator) := by
  unfold nearest
  split
  · next hzero => simp [hzero, Magnitude.number]
  · next hn =>
      have hscale := scaleOf_eq_exponentOf precision least (Nat.pos_of_ne_zero hn) hd
      simp only [Magnitude.number, rounded, hscale]
      rw [roundDiv_eq_roundEven _ (Nat.shiftLeft_pos_iff.mpr hd), shiftLeft_div_shiftLeft]

theorem rounded_le_two_zpow (hprecision : 0 < precision) (hq : 0 ≤ q) :
    rounded precision least q ≤ 2 ^ (exponentOf precision least q + precision) := by
  have hquotient : q / 2 ^ exponentOf precision least q ≤ (2 ^ precision : Nat) := by
    rw [div_le_iff₀ (by positivity), Nat.cast_pow, Nat.cast_two, ← two_zpow_add_natCast]
    exact (lt_two_zpow_exponentOf hprecision).le
  have hsignificand := roundEven_le_roundEven (by positivity) hquotient
  rw [roundEven_natCast] at hsignificand
  calc rounded precision least q
      ≤ (2 ^ precision : Nat) * 2 ^ exponentOf precision least q := by
        unfold rounded
        gcongr
    _ = 2 ^ (exponentOf precision least q + precision) := by
        rw [two_zpow_add_natCast, Nat.cast_pow, Nat.cast_two]

theorem two_zpow_le_rounded (hq : 0 < q) (hleast : least < exponentOf precision least q) :
    2 ^ (exponentOf precision least q + (precision - 1 : Nat)) ≤ rounded precision least q := by
  have hquotient : (2 ^ (precision - 1) : Nat) ≤ q / 2 ^ exponentOf precision least q := by
    rw [le_div_iff₀ (by positivity), Nat.cast_pow, Nat.cast_two, ← two_zpow_add_natCast]
    exact two_zpow_exponentOf_le hq hleast
  have hsignificand := roundEven_le_roundEven (by positivity) hquotient
  rw [roundEven_natCast] at hsignificand
  calc (2 : ℚ) ^ (exponentOf precision least q + (precision - 1 : Nat))
      = (2 ^ (precision - 1) : Nat) * 2 ^ exponentOf precision least q := by
        rw [two_zpow_add_natCast, Nat.cast_pow, Nat.cast_two]
    _ ≤ rounded precision least q := by
        unfold rounded
        gcongr

/-- The larger of two numbers is rounded to the larger number. -/
theorem rounded_le_rounded (hprecision : 0 < precision) (hq : 0 ≤ q) (hle : q ≤ r) :
    rounded precision least q ≤ rounded precision least r := by
  rcases hq.eq_or_lt with rfl | hpos
  · rw [rounded_zero]
    exact rounded_nonneg
  · rcases (exponentOf_le_exponentOf precision least hpos hle).eq_or_lt with hsame | hless
    · unfold rounded
      rw [← hsame]
      have hquotient : q / 2 ^ exponentOf precision least q ≤
          r / 2 ^ exponentOf precision least q := by
        gcongr
      have hsignificand := roundEven_le_roundEven (by positivity) hquotient
      gcongr
    · have hleast : least ≤ exponentOf precision least q := le_max_left _ _
      calc rounded precision least q
          ≤ 2 ^ (exponentOf precision least q + precision) := rounded_le_two_zpow hprecision hq
        _ ≤ 2 ^ (exponentOf precision least r + (precision - 1 : Nat)) :=
            zpow_le_zpow_right₀ one_le_two (by omega)
        _ ≤ rounded precision least r := two_zpow_le_rounded (hpos.trans_le hle) (by omega)

theorem exponentOf_sub_half (hprecision : 0 < precision) {exponent : Int}
    (hleast : least ≤ exponent) :
    exponentOf precision least ((2 ^ precision - 1 / 2) * 2 ^ exponent) = exponent := by
  have htop : (2 : ℚ) ^ precision = 2 * 2 ^ (precision - 1) := by
    rw [← pow_succ', Nat.sub_add_cancel hprecision]
  have hone : (1 : ℚ) ≤ 2 ^ (precision - 1) := one_le_pow₀ one_le_two
  have hlog : Int.log 2 ((2 ^ precision - 1 / 2) * 2 ^ exponent : ℚ) =
      exponent + (precision - 1 : Nat) := by
    apply log_eq_of_bounds
    · rw [two_zpow_add_natCast]
      gcongr
      linarith
    · rw [add_assoc, ← Nat.cast_succ, Nat.succ_eq_add_one, Nat.sub_add_cancel hprecision,
        two_zpow_add_natCast]
      gcongr
      linarith
  unfold exponentOf
  omega

/-- Half a unit below a power of two the even neighbour is the power. -/
theorem rounded_sub_half (hprecision : 0 < precision) {exponent : Int}
    (hleast : least ≤ exponent) :
    rounded precision least ((2 ^ precision - 1 / 2) * 2 ^ exponent) =
      2 ^ (exponent + precision) := by
  have heven : Even (2 ^ precision) := (Nat.even_pow' hprecision.ne').mpr even_two
  have hsignificand := roundEven_sub_half (pow_pos two_pos precision) heven
  rw [Nat.cast_pow, Nat.cast_two] at hsignificand
  unfold rounded
  rw [exponentOf_sub_half hprecision hleast, mul_div_assoc, div_self (by positivity), mul_one,
    hsignificand, two_zpow_add_natCast, Nat.cast_pow, Nat.cast_two]

/-- A power of two is reached from half a unit below it on. -/
theorem two_zpow_le_rounded_iff (hprecision : 0 < precision) {exponent : Int}
    (hleast : least ≤ exponent) (hq : 0 ≤ q) :
    2 ^ (exponent + precision) ≤ rounded precision least q ↔
      (2 ^ precision - 1 / 2) * 2 ^ exponent ≤ q := by
  have hone : (1 : ℚ) ≤ 2 ^ precision := one_le_pow₀ one_le_two
  have hhalf : (0 : ℚ) < 2 ^ precision - 1 / 2 := by linarith
  constructor
  · intro hreached
    by_contra hbelow
    rw [not_le] at hbelow
    have hpos : 0 < q := by
      refine hq.lt_of_ne fun hzero => absurd hreached (not_le.mpr ?_)
      rw [← hzero, rounded_zero]
      positivity
    have hexponent : exponentOf precision least q ≤ exponent := by
      rw [← exponentOf_sub_half hprecision hleast]
      exact exponentOf_le_exponentOf precision least hpos hbelow.le
    rcases hexponent.eq_or_lt with hsame | hless
    · -- in units of the last place the number is not up to the tie
      have hquotient : q / 2 ^ exponent < 2 ^ precision - 1 / 2 := by
        rwa [div_lt_iff₀ (by positivity)]
      have hsignificand : (roundEven (q / 2 ^ exponent) : ℚ) ≤ q / 2 ^ exponent + 1 / 2 :=
        roundEven_le_add_half (by positivity)
      refine absurd hreached (not_le.mpr ?_)
      unfold rounded
      rw [hsame, two_zpow_add_natCast]
      gcongr
      linarith
    · have hbound : rounded precision least q ≤ _ := rounded_le_two_zpow hprecision hq
      have hpower : (2 : ℚ) ^ (exponentOf precision least q + precision) <
          2 ^ (exponent + precision) := zpow_lt_zpow_right₀ one_lt_two (by omega)
      linarith
  · intro hreached
    rw [← rounded_sub_half hprecision hleast]
    exact rounded_le_rounded hprecision (by positivity) hreached

end EpsBridge.Binary64
