import AssessmentItem.Proofs.Decimal.Figures

/-!
# The highest digit of a decimal number

The exponent of the highest digit of a number below one is found by multiplication by ten.  Such a
number has places after the point, one of which every multiplication takes away, so the products
always fit and the multiplication comes to an end.  Significant figures are counted from this digit:
the number is rounded to the nearest multiple of the power of ten at which the last of them stands,
of two to the one farther from zero, if that multiple is a decimal number.

## Main definitions

* `IsRoundedAt` : the nearest multiple of a power of ten.
* `Decimal.Climbs` : repeated multiplication of a number below one by ten.
* `Decimal.IsValue` : the values of decimal numbers.
* `Decimal.lastPlace` : where the last of some figures stands.
* `Decimal.HighestDigitLaws` : the highest digit of a number and rounding to significant figures.

## Main results

* `isRoundedAt_roundedAt`, `IsRoundedAt.unique` : there is one nearest multiple.
* `Decimal.exists_climbs` : a number reaches one, and the steps are those that are counted.
* `Decimal.exists_quotient` : a number divided by a power of ten that is no greater than it.
* `Decimal.highestDigitLaws` : all of this for every number that is not zero.
-/

namespace AssessmentItem

/-! ### The nearest multiple -/

/-- The multiple of `10 ^ step` nearest to a number, of two the one farther from zero. -/
structure IsRoundedAt (step : ℤ) (z m : ℚ) : Prop where
  multiple : ∃ n : ℤ, m = n * 10 ^ step
  nearest : ∀ n : ℤ, |z - m| ≤ |z - n * 10 ^ step|
  away : ∀ n : ℤ, |z - n * 10 ^ step| = |z - m| → |(n : ℚ) * 10 ^ step| ≤ |m|

section Multiples

variable {step : ℤ} {z m m' : ℚ}

theorem isRoundedAt_of_nonneg (step : ℤ) {a : ℚ} (ha : 0 ≤ a) :
    IsRoundedAt step a (round (a / 10 ^ step) * 10 ^ step) := by
  have hunit : (0 : ℚ) < 10 ^ step := by positivity
  obtain ⟨u, rfl⟩ : ∃ u, a = u * 10 ^ step := ⟨a / 10 ^ step, (div_mul_cancel₀ a hunit.ne').symm⟩
  have hu : 0 ≤ u := nonneg_of_mul_nonneg_left ha hunit
  have hdist (n : ℤ) : |u * 10 ^ step - n * 10 ^ step| = |u - n| * 10 ^ step := by
    rw [← sub_mul, abs_mul, abs_of_pos hunit]
  rw [mul_div_cancel_right₀ _ hunit.ne']
  refine ⟨⟨round u, rfl⟩, fun n ↦ ?_, fun n hn ↦ ?_⟩
  · rw [hdist, hdist]
    exact mul_le_mul_of_nonneg_right (round_le u n) hunit.le
  · rw [hdist, hdist, mul_left_inj' hunit.ne'] at hn
    -- A multiple as near as the rounded one is between zero and it.
    obtain ⟨hlow, hhigh⟩ := abs_le.1 (hn.trans_le (abs_sub_round u))
    have hle : n ≤ round u := by
      rw [round_eq, Int.le_floor]
      linarith
    have hnonneg : 0 ≤ n := by
      have hlt : (-1 : ℚ) < n := by linarith
      have hlt : -1 < n := by exact_mod_cast hlt
      omega
    have hle : (n : ℚ) ≤ round u := mod_cast hle
    have hnonneg : (0 : ℚ) ≤ n := mod_cast hnonneg
    rw [abs_of_nonneg (mul_nonneg hnonneg hunit.le),
      abs_of_nonneg (mul_nonneg (hnonneg.trans hle) hunit.le)]
    exact mul_le_mul_of_nonneg_right hle hunit.le

theorem IsRoundedAt.neg (h : IsRoundedAt step z m) : IsRoundedAt step (-z) (-m) := by
  have hflip (b : ℚ) : |-z - b| = |z - -b| := by
    rw [← abs_neg, neg_sub, sub_neg_eq_add, sub_neg_eq_add, add_comm]
  have hmultiple (n : ℤ) : -((n : ℚ) * 10 ^ step) = (-n : ℤ) * 10 ^ step := by
    push_cast
    ring
  obtain ⟨k, hk⟩ := h.multiple
  refine ⟨⟨-k, by rw [hk, hmultiple]⟩, fun n ↦ ?_, fun n hn ↦ ?_⟩
  · rw [hflip, hflip, neg_neg, hmultiple]
    exact h.nearest (-n)
  · rw [hflip, hflip, neg_neg, hmultiple] at hn
    rw [abs_neg, ← abs_neg ((n : ℚ) * 10 ^ step), hmultiple]
    exact h.away (-n) hn

theorem isRoundedAt_roundedAt (step : ℤ) (z : ℚ) : IsRoundedAt step z (roundedAt step z) := by
  rw [roundedAt]
  rcases lt_trichotomy z 0 with hneg | rfl | hpos
  · have h := (isRoundedAt_of_nonneg step (neg_nonneg.2 hneg.le)).neg
    rw [neg_neg, ← neg_one_mul, ← abs_of_neg hneg] at h
    rw [sign_neg hneg, SignType.coe_neg_one]
    exact h
  · have h := isRoundedAt_of_nonneg step (le_refl (0 : ℚ))
    rw [zero_div, round_zero, Int.cast_zero, zero_mul] at h
    rw [sign_zero, SignType.coe_zero, zero_mul]
    exact h
  · have h := isRoundedAt_of_nonneg step hpos.le
    rw [sign_pos hpos, SignType.coe_one, one_mul, abs_of_pos hpos]
    exact h

/-- There is one nearest multiple, so `m` is unique. -/
theorem IsRoundedAt.unique (h : IsRoundedAt step z m) (h' : IsRoundedAt step z m') : m = m' := by
  obtain ⟨k, rfl⟩ := h.multiple
  obtain ⟨k', rfl⟩ := h'.multiple
  have hdist : |z - k * 10 ^ step| = |z - k' * 10 ^ step| :=
    le_antisymm (h.nearest k') (h'.nearest k)
  have habs : |(k : ℚ) * 10 ^ step| = |(k' : ℚ) * 10 ^ step| :=
    le_antisymm (h'.away k hdist) (h.away k' hdist.symm)
  obtain heq | hneg := abs_eq_abs.1 habs
  · exact heq
  · -- Opposite multiples are as near as each other to zero only, whose nearest multiple is zero.
    rw [hneg] at hdist ⊢
    obtain heq | heq := abs_eq_abs.1 hdist
    · linarith
    · have hzero : z = 0 := by linarith
      have hle := h'.nearest 0
      rw [hzero, Int.cast_zero, zero_mul, sub_zero, abs_zero, zero_sub, abs_neg, abs_nonpos_iff]
        at hle
      rw [hle, neg_zero]

theorem roundedAt_eq_mul (step : ℤ) (z : ℚ) :
    roundedAt step z = roundedAt 0 (z / 10 ^ step) * 10 ^ step := by
  have hunit : (0 : ℚ) < 10 ^ step := by positivity
  have hsign : SignType.sign (z / 10 ^ step) = SignType.sign z := by
    rw [div_eq_mul_inv, sign_mul, sign_pos (inv_pos.2 hunit), mul_one]
  rw [roundedAt, roundedAt, hsign, abs_div, abs_of_pos hunit, zpow_zero, div_one, mul_one,
    mul_assoc]

end Multiples

namespace Decimal

variable {d v next : Decimal} {n : ℕ}

/-! ### Multiplication by ten -/

/-- As many `timesTen?`, each of a number below one and with a product that fits, take one number to
another. -/
inductive Climbs : ℕ → Decimal → Decimal → Prop
  | refl (d : Decimal) : Climbs 0 d d
  | step {n : ℕ} {d next v : Decimal} (hlt : d.magnitude < 1) (hnext : d.timesTen? = some next)
      (h : Climbs n next v) : Climbs (n + 1) d v

theorem one_le_magnitude_iff (d : Decimal) : 1 ≤ d.magnitude ↔ Nat.pow 10 d.scale ≤ d.mantissa := by
  rw [magnitude, one_le_div (by positivity)]
  exact_mod_cast Iff.rfl

theorem magnitude_lt_one_iff (d : Decimal) :
    d.magnitude < 1 ↔ ¬Nat.pow 10 d.scale ≤ d.mantissa := by
  rw [← one_le_magnitude_iff, not_le]

/-- The product of `timesTen?` of a number below one fits. -/
theorem exists_product (h : d.mantissa ≠ 0) (hlt : d.magnitude < 1) :
    ∃ next, d.timesTen? = some next ∧ next.mantissa ≠ 0 ∧ next.scale + 1 = d.scale ∧
      next.magnitude = 10 * d.magnitude := by
  obtain ⟨next, hnext, hmantissa, hscale⟩ :=
    exists_timesTen? (scale_ne_zero_of_lt h ((magnitude_lt_one_iff d).1 hlt))
  refine ⟨next, hnext, hmantissa ▸ h, hscale, ?_⟩
  rw [magnitude, magnitude, hmantissa, ← hscale, pow_succ]
  field_simp

theorem Climbs.mantissa_ne_zero (hclimbs : Climbs n d v) (h : d.mantissa ≠ 0) :
    v.mantissa ≠ 0 := by
  induction hclimbs with
  | refl d => exact h
  | step hlt hnext _ ih =>
    obtain ⟨next, hnext', hmantissa, -⟩ := exists_product h hlt
    obtain rfl := Option.some_inj.1 (hnext.symm.trans hnext')
    exact ih hmantissa

/-- A number `Climbs` to one, and the steps are those that `smallExponent` counts. -/
theorem exists_climbs (d : Decimal) (h : d.mantissa ≠ 0) : ∃ n ≤ d.scale, ∃ v, Climbs n d v ∧
    1 ≤ v.magnitude ∧ d.smallExponent h = -n := by
  fun_induction smallExponent d h with
  | case1 d h hbig => exact ⟨0, Nat.zero_le _, d, .refl d, (one_le_magnitude_iff d).2 hbig, rfl⟩
  | case2 d h hlt next hnext ih =>
    have hlt := (magnitude_lt_one_iff d).2 hlt
    obtain ⟨next', hnext', -, hscale, -⟩ := exists_product h hlt
    obtain rfl := Option.some_inj.1 (hnext.symm.trans hnext')
    obtain ⟨n, hn, v, hclimbs, hone, heq⟩ := ih
    refine ⟨n + 1, by omega, v, .step hlt hnext hclimbs, hone, ?_⟩
    rw [heq, Nat.cast_succ]
    ring
  | case3 d h hlt hnone =>
    obtain ⟨next, hnext, -⟩ := exists_product h ((magnitude_lt_one_iff d).2 hlt)
    exact absurd (hnext.symm.trans hnone) (Option.some_ne_none next)

/-- The highest digit of a number stands at `leadingExponent`. -/
theorem leadingExponent_spec (h : d.mantissa ≠ 0) :
    10 ^ d.leadingExponent ≤ |d.value| ∧ |d.value| < 10 ^ (d.leadingExponent + 1) := by
  have hpos : 0 < |d.value| := by
    rw [abs_value, magnitude]
    have := Nat.pos_of_ne_zero h
    positivity
  rw [leadingExponent_eq_log h]
  have hlow := Int.zpow_log_le_self (b := 10) (by decide) hpos
  have hhigh := Int.lt_zpow_succ_log_self (b := 10) (by decide) |d.value|
  rw [Nat.cast_ofNat] at hlow hhigh
  exact ⟨hlow, hhigh⟩

/-! ### Significant figures -/

/-- The number `z` is the value of a decimal number. -/
def IsValue (z : ℚ) : Prop := ∃ d : Decimal, d.value = z

/-- A number divided by a power of ten `10 ^ shift` that is no greater is a decimal number again. -/
theorem exists_quotient (h : d.mantissa ≠ 0) {shift : ℕ} (hshift : shift ≤ d.leadingExponent) :
    ∃ s : Decimal, s.value = d.value / 10 ^ shift := by
  have hlog : Nat.log 10 d.mantissa < 29 :=
    (Nat.log_lt_iff_lt_pow (by decide) h).2 (d.mantissa_lt.trans (by norm_num))
  rw [leadingExponent_eq h] at hshift
  obtain ⟨s, -, -, -, hvalue⟩ :=
    exists_make? d.negative d.mantissa_lt (show d.scale + shift ≤ 28 by omega)
  refine ⟨s, ?_⟩
  rw [hvalue, value, magnitude, pow_add, mul_div_assoc, div_div]

theorem abs_lt_of_isValue {z : ℚ} (h : IsValue z) : |z| < 2 ^ 96 := by
  obtain ⟨d, rfl⟩ := h
  exact d.abs_value_lt

/-- Rounding to places after the point, `roundedAt` of a `step` up to zero, gives a decimal
number. -/
theorem isValue_roundedAt (d : Decimal) {step : ℤ} (hstep : step ≤ 0) :
    IsValue (roundedAt step d.value) := by
  refine ⟨d.roundPlaces (-step).toNat, ?_⟩
  rw [value_roundPlaces, Int.toNat_of_nonneg (neg_nonneg.2 hstep), neg_neg]

/-- The exponent at which the last of some `figures` stands, counted from the highest digit. -/
def lastPlace (d : Decimal) (figures : Int64) : ℤ := d.leadingExponent - figures.toInt + 1

theorem exactPlaces_eq_neg (d : Decimal) (figures : Int64) :
    d.exactPlaces figures = -d.lastPlace figures := by
  rw [exactPlaces, lastPlace]
  ring

theorem significant_value_eq (h : d.mantissa ≠ 0) (figures : Int64) :
    significant figures.toInt d.value = roundedAt (d.lastPlace figures) d.value := by
  rw [significant_value h, exactPlaces_eq_neg, neg_neg]

/-- What is known of the highest digit of a number, which `leadingExponent` finds, and of rounding
to significant figures, which are counted from it. -/
structure HighestDigitLaws (d : Decimal) : Prop where
  /-- The highest digit stands at `leadingExponent`. -/
  bounds : 10 ^ d.leadingExponent ≤ |d.value| ∧ |d.value| < 10 ^ (d.leadingExponent + 1)
  /-- A number below one `Climbs` to one by as many multiplications by ten as are counted. -/
  climbs : d.magnitude < 1 →
    ∃ n ≤ 28, ∃ v, Climbs n d v ∧ 1 ≤ v.magnitude ∧ d.leadingExponent = -n
  /-- Every product of `timesTen?` on the way is exact. -/
  product : ∀ n v, Climbs n d v → v.magnitude < 1 →
    ∃ next, v.timesTen? = some next ∧ next.magnitude = 10 * v.magnitude
  /-- The number is rounded to the nearest multiple of the power of ten at `lastPlace`, if that
  multiple is a decimal number, which it always is after the point. -/
  rounds : ∀ figures : Int64, 1 ≤ figures.toInt → figures.toInt ≤ 2 ^ 31 →
    ∀ m, IsRoundedAt (d.lastPlace figures) d.value m →
      IsValue m ∧ IsValue (d.value / 10 ^ d.lastPlace figures) ∨ d.lastPlace figures ≤ 0 →
        ∃ r, d.roundFigures? figures = some r ∧ r.value = m
  /-- Else `roundFigures?` has no result. -/
  lost : ∀ figures : Int64, 1 ≤ figures.toInt → figures.toInt ≤ 2 ^ 31 →
    ∀ m, IsRoundedAt (d.lastPlace figures) d.value m → ¬IsValue m → d.roundFigures? figures = none
  /-- Before the point the number is divided by the power of ten at `lastPlace`, without loss, the
  quotient is rounded to a whole number, and that is multiplied by the power of ten. -/
  quotient : ∀ figures : Int64, 1 ≤ figures.toInt → 0 < d.lastPlace figures →
    ∃ s : Decimal, s.value = d.value / 10 ^ d.lastPlace figures ∧
      ∀ m, IsRoundedAt (d.lastPlace figures) d.value m →
        m = (s.roundPlaces 0).value * 10 ^ d.lastPlace figures

theorem highestDigitLaws (h : d.value ≠ 0) : HighestDigitLaws d where
  bounds := leadingExponent_spec (mantissa_ne_zero h)
  climbs hlt := by
    have hmantissa := mantissa_ne_zero h
    obtain ⟨n, hn, v, hclimbs, hone, heq⟩ := exists_climbs d hmantissa
    refine ⟨n, hn.trans d.scale_le, v, hclimbs, hone, ?_⟩
    rw [leadingExponent, if_neg ((magnitude_lt_one_iff d).1 hlt), dif_neg hmantissa, heq]
  product n v hclimbs hlt := by
    obtain ⟨next, hnext, -, -, hvalue⟩ :=
      exists_product (hclimbs.mantissa_ne_zero (mantissa_ne_zero h)) hlt
    exact ⟨next, hnext, hvalue⟩
  rounds figures hfigures hmax m hm hfits := by
    have hmantissa := mantissa_ne_zero h
    have hsignificant := significant_value_eq hmantissa figures
    obtain rfl := hm.unique (isRoundedAt_roundedAt _ d.value)
    obtain ⟨-, hhigh⟩ := exactPlaces_bounds hmantissa figures
    have hvalue : IsValue (roundedAt (d.lastPlace figures) d.value) :=
      hfits.elim And.left (isValue_roundedAt d)
    obtain ⟨r, hr, heq, -⟩ := exists_roundFigures? hmantissa hfigures (by omega)
      (hsignificant ▸ abs_lt_of_isValue hvalue)
    exact ⟨r, hr, heq.trans hsignificant⟩
  lost figures hfigures hmax m hm hlost := by
    have hmantissa := mantissa_ne_zero h
    have hsignificant := significant_value_eq hmantissa figures
    obtain rfl := hm.unique (isRoundedAt_roundedAt _ d.value)
    obtain ⟨-, hhigh⟩ := exactPlaces_bounds hmantissa figures
    refine roundFigures?_eq_none hmantissa hfigures (not_lt.1 fun hfits ↦ hlost ?_)
    obtain ⟨r, -, heq, -⟩ := exists_roundFigures? hmantissa hfigures (by omega) hfits
    exact ⟨r, heq.trans hsignificant⟩
  quotient figures hfigures hpos := by
    obtain ⟨shift, hshift⟩ := Int.eq_ofNat_of_zero_le hpos.le
    have hle : shift ≤ d.leadingExponent := by
      rw [lastPlace] at hshift
      omega
    obtain ⟨s, hs⟩ := exists_quotient (mantissa_ne_zero h) hle
    rw [← zpow_natCast, ← hshift] at hs
    refine ⟨s, hs, fun m hm ↦ ?_⟩
    rw [hm.unique (isRoundedAt_roundedAt _ d.value), roundedAt_eq_mul, value_roundPlaces, hs]
    rfl

/-- The number -0.00995. -/
def halfBelowHundredth : Decimal := ⟨true, 995, 5, by decide, by decide⟩

/-- Two figures of `halfBelowHundredth` are a half too few, and rounding carries to its next
digit. -/
theorem highestDigitLaws_carry :
    halfBelowHundredth.value ≠ 0 ∧ halfBelowHundredth.leadingExponent = -3 ∧
      ∃ r, halfBelowHundredth.roundFigures? 2 = some r ∧ r.value = -1 / 100 := by
  have hvalue : halfBelowHundredth.value ≠ 0 := by
    norm_num [halfBelowHundredth, value, magnitude, signFactor]
  have hexponent : halfBelowHundredth.leadingExponent = -3 := by decide +kernel
  have hplace : halfBelowHundredth.lastPlace 2 = -4 := by
    rw [lastPlace, hexponent]
    rfl
  have hrounded : roundedAt (-4) halfBelowHundredth.value = -1 / 100 := by
    have hplaces : (halfBelowHundredth.roundPlaces 4).value = -1 / 100 := by
      norm_num [halfBelowHundredth, roundPlaces, divideHalfUp, value, magnitude, signFactor]
    exact (value_roundPlaces halfBelowHundredth 4).symm.trans hplaces
  have laws := highestDigitLaws hvalue
  have hm := isRoundedAt_roundedAt (halfBelowHundredth.lastPlace 2) halfBelowHundredth.value
  rw [hplace, hrounded, ← hplace] at hm
  exact ⟨hvalue, hexponent, laws.rounds 2 (by decide) (by decide) _ hm (.inr (by omega))⟩

end Decimal

end AssessmentItem
