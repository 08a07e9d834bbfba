import AssessmentItem.Proofs.Decimal.Basic

/-!
# Decimal numbers rounded to significant figures

The number of places that significant figures have is computed in 64 bits.  It is exact unless the
figures are so many that it is too great, which only happens for numbers below one, and there is no
result then, nor where it has more than 32 bits.  Everywhere else the result is the number rounded
to significant figures, if that fits.

## Main definitions

* `Decimal.exactPlaces` : the number of places as an exact integer.

## Main results

* `Decimal.toInt_placesOf`, `Decimal.toInt_placesOf_wrapped` : the number of places.
* `Decimal.exists_roundFigures?`, `Decimal.roundFigures?_eq_none` : rounding to figures.
-/

namespace AssessmentItem.Decimal

variable {d : Decimal} {figures : Int64}

/-! ### The number of places -/

/-- The number of places before `placesOf` brings it to 64 bits. -/
def exactPlaces (d : Decimal) (figures : Int64) : ℤ := figures.toInt - 1 - d.leadingExponent

theorem exactPlaces_bounds (h : d.mantissa ≠ 0) (figures : Int64) :
    figures.toInt - 29 ≤ d.exactPlaces figures ∧ d.exactPlaces figures ≤ figures.toInt + 27 := by
  obtain ⟨hlow, hhigh⟩ := leadingExponent_bounds h
  rw [exactPlaces]
  omega

theorem toInt_sub_one (hfigures : 1 ≤ figures.toInt) : (figures - 1).toInt = figures.toInt - 1 := by
  have hone : (1 : Int64).toInt = 1 := by decide
  have hlt := figures.toInt_lt
  rw [Int64.toInt_sub, hone, Int.bmod_eq_of_le (by omega) (by omega)]

theorem toInt_placesOf_bmod (h : d.mantissa ≠ 0) (hfigures : 1 ≤ figures.toInt) :
    (d.placesOf figures).toInt = (d.exactPlaces figures).bmod (2 ^ 64) := by
  obtain ⟨hlow, hhigh⟩ := leadingExponent_bounds h
  rw [placesOf, Int64.toInt_sub, toInt_sub_one hfigures,
    Int64.toInt_ofInt_of_le (by omega) (by omega)]
  rfl

/-- The number of places is exact if it is below `2 ^ 63`. -/
theorem toInt_placesOf (h : d.mantissa ≠ 0) (hfigures : 1 ≤ figures.toInt)
    (hfits : d.exactPlaces figures < 2 ^ 63) :
    (d.placesOf figures).toInt = d.exactPlaces figures := by
  obtain ⟨hlow, -⟩ := exactPlaces_bounds h figures
  rw [toInt_placesOf_bmod h hfigures]
  exact Int.bmod_eq_of_le (by omega) (by omega)

/-- The number of places is less by `2 ^ 64` if it does not fit. -/
theorem toInt_placesOf_wrapped (h : d.mantissa ≠ 0) (hfigures : 1 ≤ figures.toInt)
    (hwraps : 2 ^ 63 ≤ d.exactPlaces figures) :
    (d.placesOf figures).toInt = d.exactPlaces figures - 2 ^ 64 := by
  obtain ⟨-, hhigh⟩ := exactPlaces_bounds h figures
  have hlt := figures.toInt_lt
  rw [toInt_placesOf_bmod h hfigures, Int.bmod_def]
  omega

theorem toInt_neg_placesOf (h : d.mantissa ≠ 0) (hfigures : 1 ≤ figures.toInt)
    (hneg : d.exactPlaces figures < 0) :
    (-d.placesOf figures).toInt = -d.exactPlaces figures := by
  obtain ⟨hlow, -⟩ := exactPlaces_bounds h figures
  rw [Int64.toInt_neg, toInt_placesOf h hfigures (by omega)]
  exact Int.bmod_eq_of_le (by omega) (by omega)

/-! ### Rounding to figures -/

theorem roundFigures?_eq (h : d.mantissa ≠ 0) : d.roundFigures? figures =
    if 0 ≤ (d.placesOf figures).toInt then d.roundPlaces? (d.placesOf figures)
    else (powerOfTen? (-d.placesOf figures)).bind fun factor ↦
      make? d.negative
        (divideHalfUp d.mantissa (d.scale + (-d.placesOf figures).toInt.toNat) * factor) 0 :=
  if_neg h

theorem roundFigures?_of_wrapped (h : d.mantissa ≠ 0) (hfigures : 1 ≤ figures.toInt)
    (hwraps : 2 ^ 63 ≤ d.exactPlaces figures) : d.roundFigures? figures = none := by
  obtain ⟨-, hhigh⟩ := exactPlaces_bounds h figures
  have hlt := figures.toInt_lt
  have hplaces := toInt_placesOf_wrapped h hfigures hwraps
  have hbig : ¬(0 ≤ (-d.placesOf figures).toInt ∧ (-d.placesOf figures).toInt ≤ 38) := by
    rw [Int64.toInt_neg, hplaces, Int.bmod_def]
    omega
  rw [roundFigures?_eq h, if_neg (by omega), powerOfTen?, if_neg hbig]
  rfl

theorem roundFigures?_of_manyPlaces (h : d.mantissa ≠ 0) (hfigures : 1 ≤ figures.toInt)
    (hmany : 2 ^ 32 ≤ d.exactPlaces figures) : d.roundFigures? figures = none := by
  rcases le_or_gt (2 ^ 63) (d.exactPlaces figures) with hwraps | hfits
  · exact roundFigures?_of_wrapped h hfigures hwraps
  · have hplaces := toInt_placesOf h hfigures hfits
    rw [roundFigures?_eq h, if_pos (by omega), roundPlaces?, if_neg (by omega)]

theorem roundFigures?_of_places (h : d.mantissa ≠ 0) (hfigures : 1 ≤ figures.toInt)
    {places : ℕ} (hplaces : d.exactPlaces figures = places) (hfew : places < 2 ^ 32) :
    d.roundFigures? figures = some (d.roundPlaces places) := by
  have hvalue := toInt_placesOf h hfigures (by omega)
  rw [roundFigures?_eq h, if_pos (by omega), roundPlaces?, if_pos (by omega), hvalue, hplaces,
    Int.toNat_natCast]

/-- Rounding before the point divides by a power of ten for which `powerOfTen?` has a decimal
number. -/
theorem powerOfTen?_placesOf (h : d.mantissa ≠ 0) (hfigures : 1 ≤ figures.toInt) {shift : ℕ}
    (hshift : d.exactPlaces figures = -shift) (hpos : 0 < shift) :
    powerOfTen? (-d.placesOf figures) = some (10 ^ shift) ∧ 10 ^ shift < 2 ^ 96 := by
  obtain ⟨hlow, -⟩ := exactPlaces_bounds h figures
  have hvalue := toInt_neg_placesOf h hfigures (by omega)
  rw [hshift, neg_neg] at hvalue
  have hle : shift ≤ 28 := by omega
  constructor
  · rw [powerOfTen?, hvalue, if_pos (by omega), Int.toNat_natCast]
    rfl
  · calc 10 ^ shift ≤ 10 ^ 28 := Nat.pow_le_pow_right (by decide) hle
      _ < 2 ^ 96 := by decide

theorem roundFigures?_of_shift (h : d.mantissa ≠ 0) (hfigures : 1 ≤ figures.toInt) {shift : ℕ}
    (hshift : d.exactPlaces figures = -shift) (hpos : 0 < shift) :
    d.roundFigures? figures =
      make? d.negative (divideHalfUp d.mantissa (d.scale + shift) * 10 ^ shift) 0 := by
  have hvalue := toInt_placesOf h hfigures (by omega)
  have hneg := toInt_neg_placesOf h hfigures (by omega)
  rw [hshift, neg_neg] at hneg
  rw [roundFigures?_eq h, if_neg (by omega), (powerOfTen?_placesOf h hfigures hshift hpos).1, hneg,
    Int.toNat_natCast]
  rfl

/-! ### The rounded number -/

theorem significant_value (h : d.mantissa ≠ 0) :
    significant figures.toInt d.value = roundedAt (-d.exactPlaces figures) d.value := by
  rw [significant, ← leadingExponent_eq_log h, exactPlaces]
  congr 1
  ring

theorem significant_value_of_shift (h : d.mantissa ≠ 0) {shift : ℕ}
    (hshift : d.exactPlaces figures = -shift) : significant figures.toInt d.value =
      signFactor d.negative *
        (divideHalfUp d.mantissa (d.scale + shift) * 10 ^ shift : ℕ) := by
  have hquotient : d.magnitude / 10 ^ (shift : ℤ) = (d.mantissa : ℚ) / 10 ^ (d.scale + shift) := by
    rw [magnitude, zpow_natCast, pow_add, div_div]
  rw [significant_value h, hshift, neg_neg, value, roundedAt_signFactor_mul _ _ d.magnitude_nonneg,
    hquotient, ← divideHalfUp_eq, zpow_natCast]
  push_cast
  rfl

theorem abs_value_lt (d : Decimal) : |d.value| < 2 ^ 96 := by
  rw [abs_value, magnitude]
  have hmantissa : (d.mantissa : ℚ) < 2 ^ 96 := mod_cast d.mantissa_lt
  exact (div_le_self (by positivity) (one_le_pow₀ (by norm_num))).trans_lt hmantissa

/-- The result of `roundFigures?` is the number rounded to `significant` figures, with no more
places than these have. -/
theorem exists_roundFigures? (h : d.mantissa ≠ 0) (hfigures : 1 ≤ figures.toInt)
    (hfew : d.exactPlaces figures < 2 ^ 32)
    (hfits : |significant figures.toInt d.value| < 2 ^ 96) :
    ∃ r, d.roundFigures? figures = some r ∧ r.value = significant figures.toInt d.value ∧
      (r.scale : ℤ) = max 0 (min (d.scale : ℤ) (d.exactPlaces figures)) := by
  rcases le_or_gt 0 (d.exactPlaces figures) with hnonneg | hneg
  · obtain ⟨places, hplaces⟩ := Int.eq_ofNat_of_zero_le hnonneg
    refine ⟨_, roundFigures?_of_places h hfigures hplaces (by omega), ?_, ?_⟩
    · rw [value_roundPlaces, significant_value h, hplaces]
    · have hscale := d.scale_le
      rw [hplaces, roundPlaces]
      split_ifs
      · dsimp only
        omega
      · omega
  · obtain ⟨shift, hshift⟩ := Int.eq_ofNat_of_zero_le (neg_nonneg.2 hneg.le)
    rw [neg_eq_iff_eq_neg] at hshift
    rw [significant_value_of_shift h hshift] at hfits ⊢
    rw [abs_signFactor_mul _ (Nat.cast_nonneg _)] at hfits
    obtain ⟨r, hr, -, hscale, hvalue⟩ :=
      exists_make? d.negative (mod_cast hfits) (show 0 ≤ 28 by decide)
    refine ⟨r, (roundFigures?_of_shift h hfigures hshift (by omega)).trans hr, ?_, ?_⟩
    · rw [hvalue, pow_zero, div_one]
    · rw [hscale]
      omega

/-- There is no result of `roundFigures?` if it does not fit. -/
theorem roundFigures?_eq_none (h : d.mantissa ≠ 0) (hfigures : 1 ≤ figures.toInt)
    (hbig : 2 ^ 96 ≤ |significant figures.toInt d.value|) : d.roundFigures? figures = none := by
  have hneg : d.exactPlaces figures < 0 := by
    by_contra hnonneg
    obtain ⟨places, hplaces⟩ := Int.eq_ofNat_of_zero_le (not_lt.1 hnonneg)
    rw [significant_value h, hplaces] at hbig
    exact (abs_value_lt (d.roundPlaces places)).not_ge (value_roundPlaces d places ▸ hbig)
  obtain ⟨shift, hshift⟩ := Int.eq_ofNat_of_zero_le (neg_nonneg.2 hneg.le)
  rw [neg_eq_iff_eq_neg] at hshift
  rw [significant_value_of_shift h hshift, abs_signFactor_mul _ (Nat.cast_nonneg _)] at hbig
  rw [roundFigures?_of_shift h hfigures hshift (by omega), make?_eq_none_iff (by decide)]
  exact_mod_cast hbig

end AssessmentItem.Decimal
