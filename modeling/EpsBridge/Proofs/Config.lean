import EpsBridge.Config
import EpsBridge.Proofs.Number.Binary32

/-!
# Resolutions of previews

A configuration that was checked has its bounds in order, so there is a resolution within them at
every bit pattern, whatever the pattern denotes (`exists_previewDpi`).

The resolution grows with the scale as long as the product for the larger scale is a number of the
format: the product, its integer and what is left of it between the bounds all grow.  A product
beyond the format counts as zero instead.  A scale of this kind is given the least resolution, so a
smaller scale is not above it only if it has the least one too (`rises_iff`).  So resolutions grow
throughout only where the bounds leave a single one (`forall_rises_iff`).
-/

namespace EpsBridge.Config

open Binary32

variable {settings config : Config} {least largest value value' clamped clamped' : UInt32}

/-! ## Bounds -/

theorem clamp_eq_ok_iff :
    clamp value least largest = .ok clamped ↔
      least ≤ largest ∧ clamped.toNat = max least.toNat (min value.toNat largest.toNat) := by
  unfold clamp
  simp only [UInt32.lt_iff_toNat_lt, UInt32.le_iff_toNat_le]
  split
  · next hinverted => simp [hinverted]
  · next hordered =>
      rw [not_lt] at hordered
      split_ifs <;> rw [Outcome.ok.injEq, ← UInt32.toNat_inj] <;> omega

/-- A number that was brought within bounds lies within them. -/
theorem bounds_of_clamp (hclamp : clamp value least largest = .ok clamped) :
    least ≤ clamped ∧ clamped ≤ largest := by
  rw [clamp_eq_ok_iff, UInt32.le_iff_toNat_le] at hclamp
  rw [UInt32.le_iff_toNat_le, UInt32.le_iff_toNat_le]
  omega

theorem clamp_le_clamp (hle : value ≤ value') (hclamp : clamp value least largest = .ok clamped)
    (hclamp' : clamp value' least largest = .ok clamped') : clamped ≤ clamped' := by
  rw [clamp_eq_ok_iff] at hclamp hclamp'
  rw [UInt32.le_iff_toNat_le] at hle ⊢
  omega

theorem exists_clamp (hordered : least ≤ largest) (value : UInt32) :
    ∃ clamped, clamp value least largest = .ok clamped := by
  have hfits : max least.toNat (min value.toNat largest.toNat) < UInt32.size := by
    have := least.toNat_lt
    have := largest.toNat_lt
    rw [UInt32.size]
    omega
  refine ⟨.ofNat _, clamp_eq_ok_iff.mpr ⟨hordered, UInt32.toNat_ofNat_of_lt' hfits⟩⟩

/-- The configurations that pass the check are handed out as they are. -/
theorem build_eq_ok_iff :
    settings.build = .ok config ↔
      settings = config ∧ config.defaultDpi ≠ 0 ∧ config.previewMinDpi ≠ 0 ∧
        config.previewMinDpi ≤ config.previewMaxDpi := by
  unfold build
  split
  · next hdpi =>
      refine iff_of_false (by simp) ?_
      rintro ⟨rfl, hpositive, -⟩
      exact hpositive hdpi
  · next hdpi =>
      split
      · next hbounds =>
          refine iff_of_false (by simp) ?_
          rintro ⟨rfl, -, hpositive, hordered⟩
          rw [Bool.or_eq_true, decide_eq_true_eq, decide_eq_true_eq] at hbounds
          rcases hbounds with hzero | hinverted
          · exact hpositive hzero
          · exact UInt32.not_lt.mpr hordered hinverted
      · next hbounds =>
          rw [Bool.or_eq_true, decide_eq_true_eq, decide_eq_true_eq, not_or,
            UInt32.not_lt] at hbounds
          rw [Except.ok.injEq, iff_self_and]
          rintro rfl
          exact ⟨hdpi, hbounds⟩

/-- Under a configuration that was checked there is a resolution at every pattern. -/
theorem exists_previewDpi (hbuild : settings.build = .ok config) (scale : UInt32) :
    ∃ dpi, config.previewDpi scale = .ok dpi ∧ config.previewMinDpi ≤ dpi ∧
      dpi ≤ config.previewMaxDpi := by
  obtain ⟨-, -, -, hordered⟩ := build_eq_ok_iff.mp hbuild
  obtain ⟨dpi, hdpi⟩ := exists_clamp hordered (scaledInteger pointsPerInch scale)
  exact ⟨dpi, hdpi, bounds_of_clamp hdpi⟩

/-! ## Order -/

/-- The patterns of two numbers that are not negative, the second of which is not below the
first. -/
structure InOrder (scale scale' : UInt32) (x y : ℚ) : Prop where
  first : (ofBits scale).number? = some x
  second : (ofBits scale').number? = some y
  nonneg : 0 ≤ x
  le : x ≤ y

/-- The resolution at the second scale is not below the one at the first. -/
def Rises (config : Config) (scale scale' : UInt32) : Prop :=
  ∃ dpi dpi', config.previewDpi scale = .ok dpi ∧ config.previewDpi scale' = .ok dpi' ∧
    dpi ≤ dpi'

variable {scale scale' : UInt32} {x y : ℚ}

theorem inOrder_of_le (hle : scale ≤ scale') (hscale : scale' < infinityBits) :
    ∃ x y, InOrder scale scale' x y := by
  obtain ⟨x, y, hfirst, hsecond, hnonneg, hxy⟩ := number?_of_le hle hscale
  exact ⟨x, y, hfirst, hsecond, hnonneg, hxy⟩

theorem rises_of_lt_overflow (hbuild : settings.build = .ok config)
    (horder : InOrder scale scale' x y) (hbelow : pointsPerInch * y < overflow) :
    config.Rises scale scale' := by
  obtain ⟨dpi, hdpi, -⟩ := exists_previewDpi hbuild scale
  obtain ⟨dpi', hdpi', -⟩ := exists_previewDpi hbuild scale'
  have hproduct := scaledInteger_le_scaledInteger pointsPerInch horder.first horder.second
    horder.nonneg horder.le hbelow
  exact ⟨dpi, dpi', hdpi, hdpi', clamp_le_clamp hproduct hdpi hdpi'⟩

/-- A product beyond the format asks for the least resolution. -/
theorem previewDpi_of_overflow_le (hbuild : settings.build = .ok config)
    (hnumber : (ofBits scale).number? = some x) (hx : 0 ≤ x)
    (hover : overflow ≤ pointsPerInch * x) :
    config.previewDpi scale = .ok config.previewMinDpi := by
  obtain ⟨-, -, -, hordered⟩ := build_eq_ok_iff.mp hbuild
  rw [previewDpi, scaledInteger_of_overflow_le _ hnumber hx hover, clamp_eq_ok_iff]
  exact ⟨hordered, by simp⟩

theorem rises_iff_of_overflow_le (hbuild : settings.build = .ok config)
    (horder : InOrder scale scale' x y) (hover : overflow ≤ pointsPerInch * y) :
    config.Rises scale scale' ↔ config.previewDpi scale = .ok config.previewMinDpi := by
  have hleast := previewDpi_of_overflow_le hbuild horder.second
    (horder.nonneg.trans horder.le) hover
  obtain ⟨dpi, hdpi, hbound, -⟩ := exists_previewDpi hbuild scale
  constructor
  · rintro ⟨_, _, hfirst, hsecond, hle⟩
    rw [hdpi] at hfirst
    rw [hleast] at hsecond
    cases hfirst
    cases hsecond
    rw [hdpi, UInt32.le_antisymm hle hbound]
  · intro hfirst
    exact ⟨_, _, hfirst, hleast, UInt32.le_refl _⟩

/-- The largest number of the format. -/
theorem number?_largest : (ofBits 0x7f7fffff).number? = some (2 ^ 128 - 2 ^ 104) := by
  have hbits : ofBits 0x7f7fffff = .finite false 0xffffff 104 := by decide
  norm_num [hbits, Value.number?, Binary64.Magnitude.number]

/-- Of two scales in order, the first has a product that is too large for 32 bits. -/
theorem inOrder_largest : InOrder 0x4f800000 0x7f7fffff (2 ^ 32) (2 ^ 128 - 2 ^ 104) := by
  have hbits : ofBits 0x4f800000 = .finite false 0x800000 9 := by decide
  refine ⟨?_, number?_largest, by norm_num, by norm_num⟩
  norm_num [hbits, Value.number?, Binary64.Magnitude.number]

/-- There are scales that are given the largest resolution, and the largest scale is not one of
them, so resolutions grow throughout only where there is but one. -/
theorem forall_rises_iff (hbuild : settings.build = .ok config) :
    (∀ scale scale' x y, InOrder scale scale' x y → config.Rises scale scale') ↔
      config.previewMinDpi = config.previewMaxDpi := by
  obtain ⟨-, -, -, hordered⟩ := build_eq_ok_iff.mp hbuild
  constructor
  · intro hrises
    have hover : overflow ≤ pointsPerInch * (2 ^ 128 - 2 ^ 104) := by
      norm_num [overflow, pointsPerInch]
    have hleast := (rises_iff_of_overflow_le hbuild inOrder_largest hover).mp
      (hrises _ _ _ _ inOrder_largest)
    have hproduct : scaledInteger pointsPerInch 0x4f800000 = 0xffffffff := by decide +kernel
    rw [previewDpi, hproduct, clamp_eq_ok_iff] at hleast
    have hfits := config.previewMaxDpi.toNat_lt
    rw [UInt32.le_iff_toNat_le] at hordered
    rw [← UInt32.toNat_inj]
    obtain ⟨-, hmax⟩ := hleast
    change _ = max _ (min 0xffffffff _) at hmax
    omega
  · intro hsame scale scale' x y _
    obtain ⟨dpi, hdpi, -, hlargest⟩ := exists_previewDpi hbuild scale
    obtain ⟨dpi', hdpi', hleast, -⟩ := exists_previewDpi hbuild scale'
    exact ⟨dpi, dpi', hdpi, hdpi', UInt32.le_trans (hsame ▸ hlargest) hleast⟩

/-- **Resolutions of previews.**  At every pattern there is a resolution within the bounds.  Of two
scales in order, where the order is that of their patterns as well, the larger one has the larger
resolution exactly if its product is a number of the format or the smaller one has the least
resolution. -/
theorem rises_iff (hbuild : settings.build = .ok config) :
    (∀ scale, ∃ dpi, config.previewDpi scale = .ok dpi ∧ config.previewMinDpi ≤ dpi ∧
      dpi ≤ config.previewMaxDpi) ∧
    (∀ scale scale', scale ≤ scale' → scale' < infinityBits → ∃ x y, InOrder scale scale' x y) ∧
    ∀ scale scale' x y, InOrder scale scale' x y →
      (config.Rises scale scale' ↔
        pointsPerInch * y < overflow ∨ config.previewDpi scale = .ok config.previewMinDpi) := by
  refine ⟨exists_previewDpi hbuild, fun _ _ => inOrder_of_le, ?_⟩
  intro scale scale' x y horder
  rcases lt_or_ge (pointsPerInch * y) overflow with hbelow | hover
  · exact iff_of_true (rises_of_lt_overflow hbuild horder hbelow) (.inl hbelow)
  · rw [rises_iff_of_overflow_le hbuild horder hover, or_iff_right (not_lt.mpr hover)]

/-- Twice the scale, and not a smaller resolution: the scales are one and two. -/
theorem rises_iff_doubled :
    default.build = .ok default ∧ InOrder 0x3f800000 0x40000000 1 2 ∧
      default.Rises 0x3f800000 0x40000000 := by
  have hbuild : default.build = .ok default := rfl
  have horder : InOrder 0x3f800000 0x40000000 1 2 := by
    have hone : ofBits 0x3f800000 = .finite false 0x800000 (-23) := by decide
    have htwo : ofBits 0x40000000 = .finite false 0x800000 (-22) := by decide
    exact ⟨by norm_num [hone, Value.number?, Binary64.Magnitude.number],
      by norm_num [htwo, Value.number?, Binary64.Magnitude.number], by norm_num, by norm_num⟩
  exact ⟨hbuild, horder, ((rises_iff hbuild).2.2 _ _ _ _ horder).mpr
    (.inl (by norm_num [pointsPerInch, overflow]))⟩

/-- The scales are ten and the largest number of the format, and the larger one has the smaller
resolution. -/
theorem not_rises_largest :
    default.build = .ok default ∧
      InOrder 0x41200000 0x7f7fffff 10 (2 ^ 128 - 2 ^ 104) ∧
      default.previewDpi 0x41200000 = .ok 600 ∧ default.previewDpi 0x7f7fffff = .ok 72 ∧
      ¬ default.Rises 0x41200000 0x7f7fffff := by
  have hten : ofBits 0x41200000 = .finite false 0xa00000 (-20) := by decide
  have hdpi : default.previewDpi 0x41200000 = .ok 600 := by decide +kernel
  have hdpi' : default.previewDpi 0x7f7fffff = .ok 72 := by decide +kernel
  refine ⟨rfl, ⟨?_, number?_largest, by norm_num, by norm_num⟩, hdpi, hdpi', ?_⟩
  · norm_num [hten, Value.number?, Binary64.Magnitude.number]
  · rintro ⟨dpi, dpi', hfirst, hsecond, hle⟩
    rw [hdpi] at hfirst
    rw [hdpi'] at hsecond
    cases hfirst
    cases hsecond
    exact absurd hle (by decide)

end EpsBridge.Config
