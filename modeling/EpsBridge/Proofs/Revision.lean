import EpsBridge.Proofs.Number.Decimal
import EpsBridge.Proofs.Text.Fields
import EpsBridge.Revision

/-!
# What a version tells

A version shows four numbers, separated by a dot, a dot and a dash (`Shows`).  No number has a
dot, and the one in front of the dash has no sign.  So each number ends at the first separator
that follows, whatever sign the date has, and a text shows one quadruple of numbers at most
(`Shows.unique`).  The zero in front of a second number below ten makes no difference to it.

Whether a revision is packed in three parts or in two, the first three numbers are those of one
packed in three, which for a revision in two parts is ten times its number (`packed_parts`).
They are reduced, so that number tells them (`Parts.eq_of_packed_eq`).  Hence a version tells
the number and the date and nothing else (`version_eq_version_iff`).  Among revisions in three
parts the number is the revision itself (`version_identifies`).
-/

namespace EpsBridge.Revision

open Decimal

variable {revision other : Revision}

/-! ## The numbers of a version -/

/-- Four numbers, as a version shows them. -/
@[ext]
structure Parts where
  major : Int
  minor : Int
  patch : Int
  date : Int

/-- The numbers that the version of a revision shows. -/
def parts (revision : Revision) : Parts :=
  ⟨revision.major, revision.minor, revision.patch, revision.date⟩

/-- A text that shows four numbers, the third of which is written without a sign. -/
inductive Shows : List Char → Parts → Prop
  | separated {major minor patch date : List Char} {parts : Parts}
      (hmajor : Writes major parts.major) (hminor : Writes minor parts.minor)
      (hpatch : Writes patch parts.patch) (hunsigned : '-' ∉ patch)
      (hdate : Writes date parts.date) :
      Shows (major ++ '.' :: (minor ++ '.' :: (patch ++ '-' :: date))) parts

theorem dot_not_mem_of_writes {text : List Char} {value : Int} (hwrites : Writes text value) :
    '.' ∉ text := by
  intro hdot
  have hdigit := isDigit_of_writes hwrites hdot (by decide)
  exact absurd hdigit (by decide)

/-- A text shows no other numbers than those it shows. -/
theorem Shows.unique {text : List Char} {parts parts' : Parts} (hshows : Shows text parts)
    (hshows' : Shows text parts') : parts = parts' := by
  generalize hsame : text = text' at hshows'
  obtain ⟨hmajor, hminor, hpatch, hunsigned, hdate⟩ := hshows
  obtain ⟨hmajor', hminor', hpatch', hunsigned', hdate'⟩ := hshows'
  obtain ⟨rfl, hbehind⟩ := Text.eq_of_append_cons_eq (dot_not_mem_of_writes hmajor)
    (dot_not_mem_of_writes hmajor') hsame
  obtain ⟨rfl, hend⟩ := Text.eq_of_append_cons_eq (dot_not_mem_of_writes hminor)
    (dot_not_mem_of_writes hminor') hbehind
  -- the date may begin with a dash of its own, which is not the first
  obtain ⟨rfl, rfl⟩ := Text.eq_of_append_cons_eq hunsigned hunsigned' hend
  exact Parts.ext (hmajor.unique hmajor') (hminor.unique hminor') (hpatch.unique hpatch')
    (hdate.unique hdate')

/-! ## Packed numbers -/

/-- The parts of a revision pack its number in three. -/
structure InThree (revision : Revision) : Prop where
  number : revision.major * 1000 + revision.minor * 10 + revision.patch = revision.number
  minor_nonneg : 0 ≤ revision.minor
  minor_lt : revision.minor < 100
  patch_nonneg : 0 ≤ revision.patch
  patch_lt : revision.patch < 10

/-- The parts of a revision pack its number in two. -/
structure InTwo (revision : Revision) : Prop where
  number : revision.major * 100 + revision.minor = revision.number
  minor_nonneg : 0 ≤ revision.minor
  minor_lt : revision.minor < 100
  patch : revision.patch = 0

theorem inThree_of_threePart_le (hthree : threePart ≤ revision.number) : InThree revision := by
  have hnonneg : 0 ≤ revision.number := Int.le_trans (by decide) hthree
  have hnot : ¬ revision.number < threePart := Int.not_lt.mpr hthree
  have hmajor : revision.major = revision.number / 1000 := by
    rw [major, if_neg hnot, Int.tdiv_eq_ediv_of_nonneg hnonneg]
  have hminor : revision.minor = revision.number / 10 % 100 := by
    rw [minor, if_neg hnot, Int.tdiv_eq_ediv_of_nonneg hnonneg,
      Int.tmod_eq_emod_of_nonneg (by omega)]
  have hpatch : revision.patch = revision.number % 10 := by
    rw [patch, if_neg hnot, Int.tmod_eq_emod_of_nonneg hnonneg]
  constructor <;> omega

theorem parts_of_lt_threePart (htwo : revision.number < threePart) :
    revision.major = revision.number.tdiv 100 ∧ revision.minor = revision.number.tmod 100 ∧
      revision.patch = 0 := by
  rw [major, minor, patch, if_pos htwo, if_pos htwo, if_pos htwo]
  exact ⟨rfl, rfl, rfl⟩

theorem inTwo_of_lt_threePart (hnonneg : 0 ≤ revision.number)
    (htwo : revision.number < threePart) : InTwo revision := by
  obtain ⟨hmajor, hminor, hpatch⟩ := parts_of_lt_threePart htwo
  rw [Int.tdiv_eq_ediv_of_nonneg hnonneg] at hmajor
  rw [Int.tmod_eq_emod_of_nonneg hnonneg] at hminor
  constructor <;> omega

/-- The number that has the first three parts in three. -/
def Parts.packed (parts : Parts) : Int :=
  parts.major * 1000 + parts.minor * 10 + parts.patch

/-- A revision in two parts shows what ten times its number shows in three. -/
theorem packed_parts (revision : Revision) :
    revision.parts.packed =
      if revision.number < threePart then 10 * revision.number else revision.number := by
  split
  · next htwo =>
      obtain ⟨hmajor, hminor, hpatch⟩ := parts_of_lt_threePart htwo
      have hdivided := Int.mul_tdiv_add_tmod revision.number 100
      simp only [parts, Parts.packed]
      omega
  · next hthree => exact (inThree_of_threePart_le (Int.not_lt.mp hthree)).number

/-- Parts that come from dividing toward zero: they have one sign, the second is below a hundred
and the third below ten.  A number below zero, being in two parts, leaves no third. -/
inductive Parts.Reduced (parts : Parts) : Prop
  | nonneg (hmajor : 0 ≤ parts.major) (hminor : 0 ≤ parts.minor) (hminorLt : parts.minor < 100)
      (hpatch : 0 ≤ parts.patch) (hpatchLt : parts.patch < 10)
  | nonpos (hmajor : parts.major ≤ 0) (hminor : parts.minor ≤ 0) (hminorLt : -100 < parts.minor)
      (hpatch : parts.patch = 0)

theorem Parts.Reduced.patch_nonneg {parts : Parts} (hreduced : parts.Reduced) :
    0 ≤ parts.patch := by
  cases hreduced <;> omega

theorem reduced_parts (revision : Revision) : revision.parts.Reduced := by
  by_cases hthree : threePart ≤ revision.number
  · obtain ⟨hnumber, hminor, hminorLt, hpatch, hpatchLt⟩ := inThree_of_threePart_le hthree
    have hleast : threePart = 1000 := rfl
    have hmajor : 0 ≤ revision.major := by omega
    exact .nonneg hmajor hminor hminorLt hpatch hpatchLt
  · have htwo : revision.number < threePart := Int.not_le.mp hthree
    rcases Int.le_total 0 revision.number with hnonneg | hnonpos
    · obtain ⟨hnumber, hminor, hminorLt, hpatch⟩ := inTwo_of_lt_threePart hnonneg htwo
      have hmajor : 0 ≤ revision.major := by omega
      have hpatchLt : revision.patch < 10 := by omega
      exact .nonneg hmajor hminor hminorLt (Int.le_of_eq hpatch.symm) hpatchLt
    · obtain ⟨hmajor, hminor, hpatch⟩ := parts_of_lt_threePart htwo
      -- a number below zero is divided as its opposite is
      have hopposite : revision.number = -(-revision.number) := by omega
      rw [hopposite, Int.neg_tdiv, Int.tdiv_eq_ediv_of_nonneg (by omega)] at hmajor
      rw [hopposite, Int.neg_tmod, Int.tmod_eq_emod_of_nonneg (by omega)] at hminor
      have hmajorLe : revision.major ≤ 0 := by omega
      have hminorLe : revision.minor ≤ 0 := by omega
      have hminorLt : -100 < revision.minor := by omega
      exact .nonpos hmajorLe hminorLe hminorLt hpatch

/-- Reduced parts are told by the number that has them. -/
theorem Parts.eq_of_packed_eq {parts parts' : Parts} (hreduced : parts.Reduced)
    (hreduced' : parts'.Reduced) (hpacked : parts.packed = parts'.packed)
    (hdate : parts.date = parts'.date) : parts = parts' := by
  rw [packed, packed] at hpacked
  obtain ⟨hmajor, hminor, hpatch⟩ : parts.major = parts'.major ∧ parts.minor = parts'.minor ∧
      parts.patch = parts'.patch := by
    cases hreduced <;> cases hreduced' <;> omega
  exact Parts.ext hmajor hminor hpatch hdate

/-! ## What is shown -/

theorem toList_version (revision : Revision) :
    revision.version.toList = (ofInt revision.major).toList ++ '.' ::
      ((padded 2 revision.minor).toList ++ '.' ::
        ((ofInt revision.patch).toList ++ '-' :: (ofInt revision.date).toList)) := by
  simp [version]

theorem shows_version (revision : Revision) : Shows revision.version.toList revision.parts := by
  have hmajor : Writes _ revision.parts.major := writes_ofInt revision.major
  have hminor : Writes _ revision.parts.minor := writes_padded 2 revision.minor
  have hpatch : Writes _ revision.parts.patch := writes_ofInt revision.patch
  have hdate : Writes _ revision.parts.date := writes_ofInt revision.date
  have hunsigned := minus_not_mem_ofInt (reduced_parts revision).patch_nonneg
  rw [toList_version]
  exact Shows.separated hmajor hminor hpatch hunsigned hdate

/-- A version tells what its parts pack and the date, and nothing else. -/
theorem version_eq_version_iff :
    revision.version = other.version ↔
      revision.parts.packed = other.parts.packed ∧ revision.date = other.date := by
  constructor
  · intro hsame
    have hshows := shows_version revision
    rw [hsame] at hshows
    have hparts := hshows.unique (shows_version other)
    exact ⟨congrArg Parts.packed hparts, congrArg Parts.date hparts⟩
  · rintro ⟨hpacked, hdate⟩
    have hparts := Parts.eq_of_packed_eq (reduced_parts revision) (reduced_parts other) hpacked
      hdate
    have hmajor : revision.major = other.major := congrArg Parts.major hparts
    have hminor : revision.minor = other.minor := congrArg Parts.minor hparts
    have hpatch : revision.patch = other.patch := congrArg Parts.patch hparts
    rw [version, version, hmajor, hminor, hpatch, hdate]

/-- Two parts, and ten times the number in three. -/
example : (⟨"", "", 952, 20200320⟩ : Revision).version =
    (⟨"", "", 9520, 20200320⟩ : Revision).version := by decide

/-- **Versions.**  From 1000 on, the parts pack the number in three, and revisions have one
version only if they have the same number and date.  Below 1000, the parts pack the number in
two. -/
theorem version_identifies (revision : Revision) :
    (1000 ≤ revision.number →
      InThree revision ∧ ∀ other : Revision, 1000 ≤ other.number →
        (other.version = revision.version ↔
          other.number = revision.number ∧ other.date = revision.date)) ∧
      (0 ≤ revision.number → revision.number < 1000 → InTwo revision) := by
  refine ⟨fun hthree => ⟨inThree_of_threePart_le hthree, ?_⟩, inTwo_of_lt_threePart⟩
  intro other hother
  have hnot : ¬ revision.number < threePart := Int.not_lt.mpr hthree
  have hnotOther : ¬ other.number < threePart := Int.not_lt.mpr hother
  rw [version_eq_version_iff, packed_parts, packed_parts, if_neg hnot, if_neg hnotOther]

/-- The largest number of 64 bits, with dates that differ in their sign, and the largest number
in two parts. -/
theorem version_identifies_largest :
    (1000 : Int) ≤ 9223372036854775807 ∧
      InThree ⟨"", "", 9223372036854775807, 1⟩ ∧
      (⟨"", "", 9223372036854775807, -1⟩ : Revision).version ≠
        (⟨"", "", 9223372036854775807, 1⟩ : Revision).version ∧
      (0 : Int) ≤ 999 ∧ (999 : Int) < 1000 ∧ InTwo ⟨"", "", 999, 1⟩ := by
  have hlarge : (1000 : Int) ≤ 9223372036854775807 := by decide
  obtain ⟨hinThree, htold⟩ :=
    (version_identifies ⟨"", "", 9223372036854775807, 1⟩).1 hlarge
  have hinTwo := (version_identifies ⟨"", "", 999, 1⟩).2 (by decide) (by decide)
  refine ⟨hlarge, hinThree, ?_, by decide, by decide, hinTwo⟩
  intro hsame
  obtain ⟨-, hdate⟩ := (htold ⟨"", "", 9223372036854775807, -1⟩ hlarge).mp hsame
  exact absurd hdate (by decide)

end EpsBridge.Revision
