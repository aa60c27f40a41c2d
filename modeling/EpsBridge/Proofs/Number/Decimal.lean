import EpsBridge.Number.Decimal
import Mathlib.Algebra.Order.Ring.Int

/-!
# Reading decimal integers

A reader stops counting at a ceiling, so what it returns for a long run of digits is not
the number that the run denotes.  All that is read ends up in 32 bits, though, and below the
ceiling both are the same (`min_ofDigitsUpTo`): a 32-bit integer is read off exactly the
texts that write it (`bind_readDigits?_eq_some_iff`).  One of them is what is printed of it
(`writes_ofInt`), and another is what is printed of it to a width (`writes_padded`).
-/

namespace EpsBridge.Decimal

theorem isDigit_iff {c : Char} : isDigit c = true ↔ 0x30 ≤ c.toNat ∧ c.toNat ≤ 0x39 := by
  rw [isDigit, Bool.and_eq_true, decide_eq_true_eq, decide_eq_true_eq]
  rfl

/-- The integer that a text writes: ASCII digits, and in front of them a minus sign or
nothing. -/
inductive Writes : List Char → Int → Prop
  | natural {digits : List Char} (hne : digits ≠ [])
      (hdigits : ∀ c ∈ digits, isDigit c = true) : Writes digits (ofDigits digits)
  | negative {digits : List Char} (hne : digits ≠ [])
      (hdigits : ∀ c ∈ digits, isDigit c = true) : Writes ('-' :: digits) (-ofDigits digits)

theorem isDigit_of_writes {text : List Char} {value : Int} (hwrites : Writes text value) {c : Char}
    (hc : c ∈ text) (hsign : c ≠ '-') : isDigit c = true := by
  cases hwrites with
  | natural _ hdigits => exact hdigits c hc
  | negative _ hdigits =>
      rcases List.mem_cons.mp hc with hminus | hc
      · exact absurd hminus hsign
      · exact hdigits c hc

theorem writes_minus_iff {digits : List Char} {value : Int} :
    Writes ('-' :: digits) value ↔
      digits ≠ [] ∧ (∀ c ∈ digits, isDigit c = true) ∧ value = -ofDigits digits := by
  constructor
  · intro hwrites
    cases hwrites with
    | natural _ hdigits =>
        have hminus : isDigit '-' = true := hdigits '-' List.mem_cons_self
        exact absurd hminus (by decide)
    | negative hne hdigits => exact ⟨hne, hdigits, rfl⟩
  · rintro ⟨hne, hdigits, rfl⟩
    exact .negative hne hdigits

theorem writes_iff_of_unsigned {text : List Char} {value : Int}
    (hunsigned : ∀ digits, text ≠ '-' :: digits) :
    Writes text value ↔
      text ≠ [] ∧ (∀ c ∈ text, isDigit c = true) ∧ value = ofDigits text := by
  constructor
  · intro hwrites
    cases hwrites with
    | natural hne hdigits => exact ⟨hne, hdigits, rfl⟩
    | negative _ _ => exact absurd rfl (hunsigned _)
  · rintro ⟨hne, hdigits, rfl⟩
    exact .natural hne hdigits

/-- A text writes one integer. -/
theorem Writes.unique {text : List Char} {first second : Int} (hfirst : Writes text first)
    (hsecond : Writes text second) : first = second := by
  by_cases hsign : ∃ digits, text = '-' :: digits
  · obtain ⟨digits, rfl⟩ := hsign
    obtain ⟨-, -, rfl⟩ := writes_minus_iff.mp hfirst
    obtain ⟨-, -, rfl⟩ := writes_minus_iff.mp hsecond
    rfl
  · rw [not_exists] at hsign
    obtain ⟨-, -, rfl⟩ := (writes_iff_of_unsigned hsign).mp hfirst
    obtain ⟨-, -, rfl⟩ := (writes_iff_of_unsigned hsign).mp hsecond
    rfl

/-! ## Runs of digits -/

/-- Below the ceiling nothing is passed over. -/
theorem min_ofDigitsUpTo (ceiling : Nat) (digits : List Char) :
    min ceiling (ofDigitsUpTo ceiling digits) = min ceiling (ofDigits digits) := by
  unfold ofDigitsUpTo ofDigits
  refine List.foldl_rel (r := fun kept value => min ceiling kept = min ceiling value) rfl ?_
  intro c _ kept value hsame
  split <;> omega

theorem readDigits?_eq_some_iff {text : List Char} {value : Nat} :
    readDigits? text = some value ↔
      text ≠ [] ∧ (∀ c ∈ text, isDigit c = true) ∧ ofDigitsUpTo integerCeiling text = value := by
  unfold readDigits? readDigitsUpTo?
  cases text with
  | nil => simp
  | cons c rest => simp [and_assoc]

/-! ## 32-bit integers -/

theorem int32?_eq_some_iff {value : Int} {number : Int32} :
    int32? value = some number ↔ number.toInt = value := by
  have hlow := number.le_toInt
  have hhigh := number.toInt_lt
  unfold int32?
  constructor
  · intro hnumber
    split at hnumber
    · next hrange =>
        rw [Bool.and_eq_true, decide_eq_true_eq, decide_eq_true_eq, Int32.toInt_minValue,
          Int32.toInt_maxValue] at hrange
        obtain rfl := Option.some.inj hnumber
        exact Int32.toInt_ofInt_of_le hrange.1 (by omega)
    · cases hnumber
  · rintro rfl
    rw [if_pos, Int32.ofInt_toInt]
    rw [Bool.and_eq_true, decide_eq_true_eq, decide_eq_true_eq, Int32.toInt_minValue,
      Int32.toInt_maxValue]
    omega

/-- What is read off digits and then given a sign is the number that the digits denote. -/
theorem bind_readDigits?_eq_some_iff (signed : Nat → Int)
    (hsigned : ∀ value, (signed value).natAbs = value) {text : List Char} {number : Int32} :
    ((readDigits? text).bind fun value => int32? (signed value)) = some number ↔
      text ≠ [] ∧ (∀ c ∈ text, isDigit c = true) ∧ number.toInt = signed (ofDigits text) := by
  have hmin := min_ofDigitsUpTo integerCeiling text
  have hlow := number.le_toInt
  have hhigh := number.toInt_lt
  -- a number that fits into 32 bits is far below the ceiling
  have hbelow : ∀ value, number.toInt = signed value → value < integerCeiling := by
    intro value hvalue
    have habs := hsigned value
    rw [← hvalue] at habs
    unfold integerCeiling
    omega
  rw [Option.bind_eq_some_iff]
  constructor
  · rintro ⟨value, hread, hnumber⟩
    obtain ⟨hne, hdigits, rfl⟩ := readDigits?_eq_some_iff.mp hread
    rw [int32?_eq_some_iff] at hnumber
    have hkept := hbelow _ hnumber
    have hsame : ofDigitsUpTo integerCeiling text = ofDigits text := by omega
    rw [hsame] at hnumber
    exact ⟨hne, hdigits, hnumber⟩
  · rintro ⟨hne, hdigits, hnumber⟩
    have hkept := hbelow _ hnumber
    have hsame : ofDigitsUpTo integerCeiling text = ofDigits text := by omega
    refine ⟨ofDigits text, readDigits?_eq_some_iff.mpr ⟨hne, hdigits, hsame⟩, ?_⟩
    exact int32?_eq_some_iff.mpr hnumber

/-- The nearest 32-bit integer is the value itself, or the end of the range it lies beyond. -/
theorem toInt_clampInt32 (value : Int) :
    (clampInt32 value).toInt = max (-2 ^ 31) (min (2 ^ 31 - 1) value) := by
  have hmin := Int32.toInt_minValue
  have hmax := Int32.toInt_maxValue
  unfold clampInt32
  split
  · omega
  · split
    · omega
    · rw [Int32.toInt_ofInt_of_le (by omega) (by omega)]
      omega

/-! ## Printed integers -/

theorem isDigit_of_mem_repr {number : Nat} {c : Char} (hc : c ∈ (Nat.repr number).toList) :
    isDigit c = true := by
  rw [Nat.toList_repr] at hc
  have hdigit := Nat.isDigit_of_mem_toDigits (by decide) (by decide) hc
  rw [Char.isDigit, Bool.and_eq_true, decide_eq_true_eq, decide_eq_true_eq] at hdigit
  exact isDigit_iff.mpr hdigit

theorem ofDigits_repr (number : Nat) : ofDigits (Nat.repr number).toList = number := by
  have hread := Nat.ofDigitChars_ten_toDigits (n := number)
  rw [Nat.ofDigitChars_eq_foldl] at hread
  rw [Nat.toList_repr]
  exact hread

theorem ofNat_injective : Function.Injective ofNat := by
  intro first second hsame
  have hdigits := congrArg (fun text => ofDigits text.toList) hsame
  simpa only [ofNat, ofDigits_repr] using hdigits

/-- What is printed of an integer writes it. -/
theorem writes_ofInt (value : Int) : Writes (ofInt value).toList value := by
  have hne : ∀ number, (Nat.repr number).toList ≠ [] := by
    intro number
    rw [Nat.toList_repr]
    exact Nat.toDigits_ne_nil
  cases value with
  | ofNat number =>
      have hwrites := Writes.natural (hne number) fun c hc => isDigit_of_mem_repr hc
      rwa [ofDigits_repr] at hwrites
  | negSucc number =>
      have hwrites := Writes.negative (hne (number + 1)) fun c hc => isDigit_of_mem_repr hc
      have htext : (ofInt (.negSucc number)).toList = '-' :: (Nat.repr (number + 1)).toList := by
        rw [ofInt, String.toList_append]
        rfl
      rw [ofDigits_repr] at hwrites
      rw [htext]
      exact hwrites

theorem ofInt_injective : Function.Injective ofInt := by
  intro first second hsame
  have hwrites := writes_ofInt first
  rw [hsame] at hwrites
  exact hwrites.unique (writes_ofInt second)

theorem minus_not_mem_ofInt {value : Int} (hvalue : 0 ≤ value) : '-' ∉ (ofInt value).toList := by
  obtain ⟨number, rfl⟩ := Int.eq_ofNat_of_zero_le hvalue
  intro hminus
  have hdigit : isDigit '-' = true := isDigit_of_mem_repr hminus
  exact absurd hdigit (by decide)

/-- Zeros in front of digits count for nothing. -/
theorem ofDigits_replicate_append (count : Nat) (digits : List Char) :
    ofDigits (List.replicate count '0' ++ digits) = ofDigits digits := by
  induction count with
  | zero => rfl
  | succ count ih => exact ih

theorem exists_toList_padded (width : Nat) (value : Int) :
    ∃ count, (padded width value).toList =
      (if value < 0 then ['-'] else []) ++
        (List.replicate count '0' ++ (Nat.repr value.natAbs).toList) := by
  refine ⟨width - ((if value < 0 then "-" else "").length + (Nat.repr value.natAbs).length), ?_⟩
  rw [padded, String.toList_append, String.toList_append, String.toList_ofList, List.append_assoc]
  congr 1
  split <;> rfl

/-- What is printed of an integer to a width writes it, however wide that is. -/
theorem writes_padded (width : Nat) (value : Int) : Writes (padded width value).toList value := by
  obtain ⟨count, htext⟩ := exists_toList_padded width value
  have hne : List.replicate count '0' ++ (Nat.repr value.natAbs).toList ≠ [] := by
    rw [Nat.toList_repr]
    exact List.append_ne_nil_of_right_ne_nil _ Nat.toDigits_ne_nil
  have hdigits : ∀ c ∈ List.replicate count '0' ++ (Nat.repr value.natAbs).toList,
      isDigit c = true := by
    intro c hc
    rcases List.mem_append.mp hc with hzero | hdigit
    · rw [List.eq_of_mem_replicate hzero]
      decide
    · exact isDigit_of_mem_repr hdigit
  have hvalue : ofDigits (List.replicate count '0' ++ (Nat.repr value.natAbs).toList) =
      value.natAbs := by
    rw [ofDigits_replicate_append, ofDigits_repr]
  rw [htext]
  by_cases hsign : value < 0
  · have hwrites := Writes.negative hne hdigits
    rw [hvalue, Int.ofNat_natAbs_of_nonpos (by omega), Int.neg_neg] at hwrites
    rw [if_pos hsign]
    exact hwrites
  · have hwrites := Writes.natural hne hdigits
    rw [hvalue, Int.natAbs_of_nonneg (by omega)] at hwrites
    rw [if_neg hsign]
    exact hwrites

/-- A reader that knows both signs reads what is written with a minus sign or none. -/
theorem readInt32?_of_writes {text : List Char} {number : Int32}
    (hwrites : Writes text number.toInt) : readInt32? text = some number := by
  unfold readInt32? readInteger?
  split
  · next digits =>
      -- a plus sign writes nothing
      have hplus := isDigit_of_writes hwrites List.mem_cons_self (by decide)
      exact absurd hplus (by decide)
  · next digits =>
      rw [Option.bind_map]
      exact (bind_readDigits?_eq_some_iff (fun n => -Int.ofNat n) (by simp)).mpr
        (writes_minus_iff.mp hwrites)
  · next _ hminus =>
      rw [Option.bind_map]
      exact (bind_readDigits?_eq_some_iff Int.ofNat (by simp)).mpr
        ((writes_iff_of_unsigned hminus).mp hwrites)

end EpsBridge.Decimal
