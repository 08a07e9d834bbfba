import AssessmentItem.Decimal
import AssessmentItem.Proofs.Binary64.Shortest

/-!
# Exact values of decimal numbers

A decimal number stands for a rational number, and rounding it to places or to figures is rounding
that number to the nearest multiple of a power of ten, a half away from zero.  The highest digit is
found however far below the point it stands.  The digits of a floating-point number are rounded to
28 places after the point, if the whole fits.

## Main definitions

* `Decimal.value` : the exact value of a decimal number.
* `roundedAt`, `significant` : a rational number, rounded to a multiple of a power of ten and to
  significant figures.

## Main results

* `significant_bounds`, `exists_significant` : a number that is rounded to figures is as great as
  its highest digit, and has no more figures.
* `Decimal.exists_ofDigits?`, `Decimal.ofDigits?_eq_none` : the decimal number of digits.
* `Decimal.leadingExponent_eq` : the exponent of the highest digit.
* `Decimal.value_roundPlaces` : rounding to places.
-/

namespace AssessmentItem

/-! ### Rounding of rational numbers -/

/-- The multiple of `10 ^ step` nearest to a number, of two the one farther from zero. -/
def roundedAt (step : ℤ) (z : ℚ) : ℚ := SignType.sign z * (round (|z| / 10 ^ step) * 10 ^ step)

/-- The number `z` rounded to significant `figures`, a half away from zero. -/
def significant (figures : ℤ) (z : ℚ) : ℚ := roundedAt (Int.log 10 |z| + 1 - figures) z

theorem roundedAt_zero (step : ℤ) : roundedAt step 0 = 0 := by
  rw [roundedAt, sign_zero, SignType.coe_zero, zero_mul]

/-- The factor of a sign. -/
def signFactor (negative : Bool) : ℚ := if negative then -1 else 1

theorem abs_signFactor_mul (negative : Bool) {a : ℚ} (ha : 0 ≤ a) :
    |signFactor negative * a| = a := by
  cases negative <;> simp [signFactor, abs_of_nonneg ha]

theorem roundedAt_signFactor_mul (negative : Bool) (step : ℤ) {a : ℚ} (ha : 0 ≤ a) :
    roundedAt step (signFactor negative * a) =
      signFactor negative * (round (a / 10 ^ step) * 10 ^ step) := by
  rw [roundedAt, abs_signFactor_mul negative ha]
  rcases ha.eq_or_lt with rfl | hpos
  · simp
  · cases negative
    · simp [signFactor, sign_pos hpos]
    · simp [signFactor, sign_neg (neg_lt_zero.2 hpos)]

theorem abs_roundedAt (step : ℤ) {z : ℚ} (hz : z ≠ 0) :
    |roundedAt step z| = |(round (|z| / 10 ^ step) : ℚ)| * 10 ^ step := by
  have hstep : (0 : ℚ) < 10 ^ step := by positivity
  rw [roundedAt, abs_mul, abs_mul, abs_of_pos hstep]
  rcases lt_or_gt_of_ne hz with h | h
  · rw [sign_neg h, SignType.coe_neg_one, abs_neg, abs_one, one_mul]
  · rw [sign_pos h, SignType.coe_one, abs_one, one_mul]

/-- What `significant` gives has as many figures, or is the next power of ten. -/
theorem exists_abs_significant {z : ℚ} (hz : z ≠ 0) (k : ℕ) :
    ∃ c : ℕ, 10 ^ k ≤ c ∧ c ≤ 10 ^ (k + 1) ∧
      |significant (k + 1) z| = c * 10 ^ (Int.log 10 |z| - k) := by
  have hlow := Int.zpow_log_le_self (b := 10) (by decide) (abs_pos.2 hz)
  have hhigh := Int.lt_zpow_succ_log_self (b := 10) (by decide) |z|
  rw [significant, add_sub_add_right_eq_sub, abs_roundedAt _ hz]
  obtain ⟨step, hstep⟩ : ∃ step, Int.log 10 |z| = k + step := ⟨Int.log 10 |z| - k, by ring⟩
  have hunit : (0 : ℚ) < 10 ^ step := by positivity
  rw [hstep, Nat.cast_ofNat, zpow_add₀ (by norm_num), ← le_div_iff₀ hunit, zpow_natCast] at hlow
  rw [hstep, Nat.cast_ofNat, add_right_comm, zpow_add₀ (by norm_num), ← div_lt_iff₀ hunit,
    ← Nat.cast_succ, zpow_natCast, Nat.succ_eq_add_one] at hhigh
  rw [hstep, add_sub_cancel_left]
  generalize |z| / 10 ^ step = u at hlow hhigh ⊢
  have hfloor : (10 : ℤ) ^ k ≤ round u ∧ round u ≤ 10 ^ (k + 1) := by
    rw [round_eq, Int.le_floor, ← Int.lt_add_one_iff, Int.floor_lt]
    push_cast
    exact ⟨by linarith, by linarith⟩
  obtain ⟨c, hc⟩ := Int.eq_ofNat_of_zero_le (le_trans (by positivity) hfloor.1)
  rw [hc] at hfloor ⊢
  refine ⟨c, mod_cast hfloor.1, mod_cast hfloor.2, ?_⟩
  rw [Int.cast_natCast, Nat.abs_cast]

/-- What `significant` gives is at least as great as the highest digit, and no greater than the next
power of ten. -/
theorem significant_bounds {figures : ℤ} {z : ℚ} (hfigures : 1 ≤ figures) (hz : z ≠ 0) :
    10 ^ Int.log 10 |z| ≤ |significant figures z| ∧
      |significant figures z| ≤ 10 ^ (Int.log 10 |z| + 1) := by
  obtain ⟨k, rfl⟩ : ∃ k : ℕ, figures = k + 1 := ⟨(figures - 1).toNat, by omega⟩
  obtain ⟨c, hlow, hhigh, habs⟩ := exists_abs_significant hz k
  have hpower (n : ℕ) :
      (10 : ℚ) ^ n * 10 ^ (Int.log 10 |z| - k) = 10 ^ (Int.log 10 |z| + (n - k)) := by
    rw [← zpow_natCast, ← zpow_add₀ (by norm_num)]
    congr 1
    ring
  have hlow : (10 : ℚ) ^ k ≤ c := mod_cast hlow
  have hhigh : (c : ℚ) ≤ 10 ^ (k + 1) := mod_cast hhigh
  rw [habs]
  constructor
  · calc (10 : ℚ) ^ Int.log 10 |z| = 10 ^ k * 10 ^ (Int.log 10 |z| - k) := by
          rw [hpower, sub_self, add_zero]
      _ ≤ c * 10 ^ (Int.log 10 |z| - k) := by gcongr
  · calc c * (10 : ℚ) ^ (Int.log 10 |z| - k) ≤ 10 ^ (k + 1) * 10 ^ (Int.log 10 |z| - k) := by gcongr
      _ = 10 ^ (Int.log 10 |z| + 1) := by rw [hpower, Nat.cast_succ, add_sub_cancel_left]

/-- What `significant` gives has no more digits than the figures. -/
theorem exists_significant {figures : ℤ} {z : ℚ} (hfigures : 1 ≤ figures) (hz : z ≠ 0) :
    ∃ (r : ℕ) (t : ℤ), r < 10 ^ figures.toNat ∧ |significant figures z| = r * 10 ^ t := by
  obtain ⟨k, rfl⟩ : ∃ k : ℕ, figures = k + 1 := ⟨(figures - 1).toNat, by omega⟩
  obtain ⟨c, -, hhigh, habs⟩ := exists_abs_significant hz k
  rw [show ((k : ℤ) + 1).toNat = k + 1 by omega]
  rcases hhigh.lt_or_eq with hlt | rfl
  · exact ⟨c, _, hlt, habs⟩
  · refine ⟨1, Int.log 10 |z| - k + (k + 1 : ℕ), one_lt_pow₀ (by decide) k.succ_ne_zero, ?_⟩
    rw [habs, zpow_add₀ (by norm_num), zpow_natCast, Nat.cast_one, one_mul, mul_comm]
    norm_cast

theorem round_intCast_div {a : ℚ} {step : ℤ} (n : ℤ) (h : a = n * 10 ^ step) :
    round (a / 10 ^ step) * (10 : ℚ) ^ step = a := by
  have hne : (10 : ℚ) ^ step ≠ 0 := by positivity
  rw [h, mul_div_cancel_right₀ _ hne, round_intCast]

/-- A multiple of `10 ^ step` is not changed by `roundedAt`. -/
theorem roundedAt_of_abs_eq {z : ℚ} {n : ℕ} {e step : ℤ} (h : |z| = n * 10 ^ e) (hle : step ≤ e) :
    roundedAt step z = z := by
  obtain ⟨i, rfl⟩ := Int.le.dest hle
  rw [zpow_add₀ (by norm_num), zpow_natCast] at h
  rw [roundedAt, round_intCast_div (n * 10 ^ i : ℕ), sign_mul_abs]
  rw [h]
  push_cast
  ring

/-- A number with no more digits than the figures is not changed by `significant`. -/
theorem significant_of_abs_eq {z : ℚ} {n k : ℕ} {e figures : ℤ} (h : |z| = n * 10 ^ e)
    (hn : n < 10 ^ k) (hk : k ≤ figures) (hz : z ≠ 0) : significant figures z = z := by
  refine roundedAt_of_abs_eq h ?_
  have hpos : 0 < |z| := abs_pos.2 hz
  have hlt : |z| < 10 ^ (k + e) := by
    have hn : (n : ℚ) < 10 ^ k := mod_cast hn
    rw [h, zpow_add₀ (by norm_num), zpow_natCast]
    gcongr
  have hlog := (Int.lt_zpow_iff_log_lt (b := 10) (by decide) hpos).1 (mod_cast hlt)
  omega

namespace Decimal

/-! ### Values -/

/-- The exact value without the sign. -/
def magnitude (d : Decimal) : ℚ := d.mantissa / 10 ^ d.scale

/-- The exact value of a decimal number, with its sign before the `magnitude`. -/
def value (d : Decimal) : ℚ := signFactor d.negative * d.magnitude

theorem magnitude_nonneg (d : Decimal) : 0 ≤ d.magnitude := by
  unfold magnitude
  positivity

theorem abs_value (d : Decimal) : |d.value| = d.magnitude :=
  abs_signFactor_mul d.negative d.magnitude_nonneg

theorem mantissa_ne_zero {d : Decimal} (h : d.value ≠ 0) : d.mantissa ≠ 0 := by
  intro hzero
  rw [value, magnitude, hzero, Nat.cast_zero, zero_div, mul_zero] at h
  exact h rfl

theorem make?_eq_none_iff {negative : Bool} {mantissa scale : ℕ} (hscale : scale ≤ 28) :
    make? negative mantissa scale = none ↔ 2 ^ 96 ≤ mantissa := by
  rw [make?]
  split_ifs with h
  · exact iff_of_false not_false (by omega)
  · exact iff_of_true rfl (by omega)

/-- Zero has lost its sign, but not its value. -/
theorem value_normalized (negative : Bool) (mantissa scale : ℕ) (hmantissa hscale) :
    value ⟨negative && mantissa != 0, mantissa, scale, hmantissa, hscale⟩ =
      signFactor negative * (mantissa / 10 ^ scale) := by
  rw [value, magnitude]
  dsimp only
  rcases eq_or_ne mantissa 0 with rfl | hne
  · simp
  · rw [bne_iff_ne.2 hne, Bool.and_true]

theorem exists_make? (negative : Bool) {mantissa scale : ℕ} (hmantissa : mantissa < 2 ^ 96)
    (hscale : scale ≤ 28) : ∃ d, make? negative mantissa scale = some d ∧ d.mantissa = mantissa ∧
      d.scale = scale ∧ d.value = signFactor negative * (mantissa / 10 ^ scale) := by
  exact ⟨_, dif_pos ⟨hmantissa, hscale⟩, rfl, rfl, value_normalized _ _ _ _ _⟩

theorem divideHalfUp_eq (n places : ℕ) :
    (divideHalfUp n places : ℤ) = round ((n : ℚ) / 10 ^ places) := by
  have hsum : (n : ℚ) / 10 ^ places + 1 / 2 =
      ((2 * n + 10 ^ places : ℕ) : ℤ) / ((2 * 10 ^ places : ℕ) : ℚ) := by
    push_cast
    field_simp
  rw [round_eq, hsum, Rat.floor_intCast_div_natCast, divideHalfUp]
  rfl

/-! ### Digits -/

/-- Digits after the point are taken as long as there are `places` for them. -/
theorem takeFraction?_lowDigits (negative : Bool) {n : ℕ} (hn : n < 2 ^ 96) (rest : ℕ) :
    (places scale : ℕ) → scale + places ≤ 28 →
    takeFraction? negative (n / 10 ^ (places + rest)) scale (lowDigits n (places + rest)) =
      takeFraction? negative (n / 10 ^ rest) (scale + places) (lowDigits n rest)
  | 0, scale, _ => by rw [zero_add, add_zero]
  | places + 1, scale, h => by
      have hnext : 10 * (n / 10 ^ (places + rest + 1)) + n / 10 ^ (places + rest) % 10 =
          n / 10 ^ (places + rest) := by
        rw [pow_succ, ← Nat.div_div_eq_div_mul]
        omega
      have hle : n / 10 ^ (places + rest) ≤ n := Nat.div_le_self _ _
      rw [add_right_comm places 1 rest, lowDigits, takeFraction?, Nat.pow_eq, hnext,
        if_pos ⟨by omega, by omega⟩,
        takeFraction?_lowDigits negative hn rest places (scale + 1) (by omega), add_assoc,
        add_comm 1 places]

/-- The first digit for which there is no place rounds those before it, as `divideHalfUp` does. -/
theorem takeFraction?_full (negative : Bool) {n : ℕ} (hn : n + 1 < 2 ^ 96) (rest : ℕ) :
    takeFraction? negative (n / 10 ^ (rest + 1)) 28 (lowDigits n (rest + 1)) =
      make? negative (divideHalfUp n (rest + 1)) 28 := by
  have hpos : 0 < 10 ^ rest := Nat.pow_pos (by decide)
  have hrounded : divideHalfUp n (rest + 1) = (n / 10 ^ rest + 5) / 10 := by
    have hsum : 2 * n + 10 ^ (rest + 1) = 2 * (n + 5 * 10 ^ rest) := by
      rw [pow_succ]
      ring
    rw [divideHalfUp, Nat.pow_eq, hsum, Nat.mul_div_mul_left _ _ two_pos, pow_succ,
      ← Nat.div_div_eq_div_mul, Nat.add_mul_div_right _ _ hpos]
  have hle : n / 10 ^ rest ≤ n := Nat.div_le_self _ _
  rw [lowDigits, takeFraction?, if_neg (by omega), hrounded, Nat.pow_eq, pow_succ,
    ← Nat.div_div_eq_div_mul]
  generalize n / 10 ^ rest = q at hle ⊢
  split_ifs with hdigit hfits
  · rw [show (q + 5) / 10 = q / 10 by omega]
  · rw [show (q + 5) / 10 = q / 10 + 1 by omega]
  · omega
  · omega

theorem ofDigits?_of_nonneg (negative : Bool) (n k : ℕ) :
    ofDigits? negative ⟨n, k⟩ = make? negative (n * 10 ^ k) 0 := rfl

/-- What `ofDigits?` makes of digits of which at most 28 stand after the point. -/
theorem ofDigits?_of_places (negative : Bool) {n places : ℕ} (hn : n < 2 ^ 96)
    (hplaces : places + 1 ≤ 28) :
    ofDigits? negative ⟨n, .negSucc places⟩ = make? negative n (places + 1) := by
  have hle : n / 10 ^ (places + 1) ≤ n := Nat.div_le_self _ _
  have htaken := takeFraction?_lowDigits negative hn 0 (places + 1) 0 (by omega)
  rw [add_zero, pow_zero, Nat.div_one, zero_add] at htaken
  rw [ofDigits?]
  dsimp only
  rw [Nat.pow_eq, if_pos (by omega), htaken]
  rfl

/-- What `ofDigits?` makes of digits of which more than 28 stand after the point. -/
theorem ofDigits?_of_excess (negative : Bool) {n rest : ℕ} (hn : n + 1 < 2 ^ 96) :
    ofDigits? negative ⟨n, .negSucc (28 + rest)⟩ =
      make? negative (divideHalfUp n (rest + 1)) 28 := by
  have hle : n / 10 ^ (28 + (rest + 1)) ≤ n := Nat.div_le_self _ _
  rw [ofDigits?]
  dsimp only
  rw [Nat.pow_eq, add_assoc, if_pos (by omega),
    takeFraction?_lowDigits negative (by omega) (rest + 1) 28 0 (by omega), zero_add,
    takeFraction?_full negative hn]

theorem value_digits_of_nonneg (n k : ℕ) : Binary64.Digits.value ⟨n, k⟩ = (n * 10 ^ k : ℕ) := by
  rw [Binary64.Digits.value, zpow_natCast]
  push_cast
  rfl

theorem value_digits_div (n rest : ℕ) :
    Binary64.Digits.value ⟨n, .negSucc (28 + rest)⟩ / 10 ^ (-28 : ℤ) =
      (n : ℚ) / 10 ^ (rest + 1) := by
  rw [Binary64.Digits.value, zpow_negSucc, add_assoc, pow_add, zpow_neg]
  field_simp

/-- What `ofDigits?` makes of digits is their value, rounded to 28 places. -/
theorem exists_ofDigits? (negative : Bool) {d : Binary64.Digits} (hdigits : d.digits + 1 < 2 ^ 96)
    (hfits : d.value < 2 ^ 96) : ∃ r, ofDigits? negative d = some r ∧
      r.value = roundedAt (-28) (signFactor negative * d.value) ∧
      r.scale = (min 28 (-d.exponent)).toNat := by
  have hnonneg : 0 ≤ d.value := by
    rw [Binary64.Digits.value]
    positivity
  obtain ⟨n, e⟩ := d
  dsimp only at hdigits ⊢
  rcases le_or_gt (-28) e with hplaces | hexcess
  · have hexact : roundedAt (-28) (signFactor negative * Binary64.Digits.value ⟨n, e⟩) =
        signFactor negative * Binary64.Digits.value ⟨n, e⟩ :=
      roundedAt_of_abs_eq (abs_signFactor_mul negative hnonneg) hplaces
    rw [hexact]
    cases e with
    | ofNat k =>
      rw [Int.ofNat_eq_natCast, value_digits_of_nonneg] at hfits ⊢
      obtain ⟨r, hr, -, hscale, hvalue⟩ :=
        exists_make? negative (mod_cast hfits) (show 0 ≤ 28 by decide)
      refine ⟨r, (ofDigits?_of_nonneg negative n k).trans hr, ?_, by omega⟩
      rw [hvalue, pow_zero, div_one]
    | negSucc k =>
      obtain ⟨r, hr, -, hscale, hvalue⟩ :=
        exists_make? negative (by omega : n < 2 ^ 96) (show k + 1 ≤ 28 by omega)
      refine ⟨r, (ofDigits?_of_places negative (by omega) (by omega)).trans hr, ?_, by omega⟩
      rw [hvalue, Binary64.Digits.value, zpow_negSucc, div_eq_mul_inv]
  · obtain ⟨rest, rfl⟩ : ∃ rest : ℕ, e = .negSucc (28 + rest) := ⟨(-29 - e).toNat, by omega⟩
    have hle : divideHalfUp n (rest + 1) ≤ n := divideHalfUp_le _ _
    obtain ⟨r, hr, -, hscale, hvalue⟩ :=
      exists_make? negative (by omega : divideHalfUp n (rest + 1) < 2 ^ 96) le_rfl
    refine ⟨r, (ofDigits?_of_excess negative hdigits).trans hr, ?_, by omega⟩
    rw [roundedAt_signFactor_mul negative _ hnonneg, hvalue, value_digits_div, ← divideHalfUp_eq,
      zpow_neg, ← div_eq_mul_inv]
    rfl

/-- For digits that are too great `ofDigits?` makes nothing. -/
theorem ofDigits?_eq_none (negative : Bool) {d : Binary64.Digits} (hdigits : d.digits < 2 ^ 96)
    (hbig : 2 ^ 96 ≤ d.value) : ofDigits? negative d = none := by
  obtain ⟨n, e⟩ := d
  cases e with
  | ofNat k =>
    rw [Binary64.Digits.value, Int.ofNat_eq_natCast, zpow_natCast] at hbig
    rw [Int.ofNat_eq_natCast, ofDigits?_of_nonneg, make?_eq_none_iff (by decide)]
    exact_mod_cast hbig
  | negSucc k =>
    have hn : (n : ℚ) < 2 ^ 96 := mod_cast hdigits
    rw [Binary64.Digits.value, zpow_negSucc, ← div_eq_mul_inv] at hbig
    exact absurd (hbig.trans (div_le_self n.cast_nonneg (one_le_pow₀ (by norm_num)))) hn.not_ge

/-! ### The highest digit -/

theorem pow_le_iff_le_log {d : Decimal} (h : d.mantissa ≠ 0) :
    Nat.pow 10 d.scale ≤ d.mantissa ↔ d.scale ≤ Nat.log 10 d.mantissa :=
  (Nat.le_log_iff_pow_le (by decide) h).symm

theorem scale_ne_zero_of_lt {d : Decimal} (h : d.mantissa ≠ 0)
    (hlt : ¬Nat.pow 10 d.scale ≤ d.mantissa) : d.scale ≠ 0 := by
  intro hzero
  rw [hzero] at hlt
  exact hlt (Nat.pos_of_ne_zero h)

/-- With `timesTen?` a number that has places after the point has one place less. -/
theorem exists_timesTen? {d : Decimal} (hscale : d.scale ≠ 0) : ∃ next, d.timesTen? = some next ∧
    next.mantissa = d.mantissa ∧ next.scale + 1 = d.scale := by
  obtain ⟨next, hnext, hmantissa, hplace, -⟩ :=
    exists_make? d.negative d.mantissa_lt (show d.scale - 1 ≤ 28 by have := d.scale_le; omega)
  refine ⟨next, ?_, hmantissa, by omega⟩
  rw [timesTen?, if_neg hscale, hnext]

/-- Every step of `smallExponent` takes one place away. -/
theorem smallExponent_eq (d : Decimal) (h : d.mantissa ≠ 0) :
    d.smallExponent h = min 0 ((Nat.log 10 d.mantissa : ℤ) - d.scale) := by
  fun_induction smallExponent d h with
  | case1 d h hbig =>
    have hlog := (pow_le_iff_le_log h).1 hbig
    omega
  | case2 d h hlt next hnext ih =>
    obtain ⟨next', hnext', hmantissa, hplace⟩ := exists_timesTen? (scale_ne_zero_of_lt h hlt)
    obtain rfl : next = next' := Option.some_inj.1 (hnext.symm.trans hnext')
    have hlog := (pow_le_iff_le_log h).not.1 hlt
    rw [ih, hmantissa]
    omega
  | case3 d h hlt hnone =>
    obtain ⟨next, hnext, -⟩ := exists_timesTen? (scale_ne_zero_of_lt h hlt)
    rw [hnone] at hnext
    nomatch hnext

/-- The exponent of the highest digit, also for numbers below one. -/
theorem leadingExponent_eq {d : Decimal} (h : d.mantissa ≠ 0) :
    d.leadingExponent = (Nat.log 10 d.mantissa : ℤ) - d.scale := by
  rw [leadingExponent]
  split_ifs with hbig
  · have hwhole : d.mantissa / Nat.pow 10 d.scale ≠ 0 :=
      (Nat.div_pos hbig (Nat.pow_pos (by decide))).ne'
    have hlog := (pow_le_iff_le_log h).1 hbig
    rw [Binary64.decimalLength_eq hwhole, Nat.pow_eq, Nat.log_div_base_pow]
    omega
  · have hlog := (pow_le_iff_le_log h).not.1 hbig
    rw [smallExponent_eq]
    omega

theorem leadingExponent_bounds {d : Decimal} (h : d.mantissa ≠ 0) :
    -28 ≤ d.leadingExponent ∧ d.leadingExponent ≤ 28 := by
  have hscale := d.scale_le
  have hlog : Nat.log 10 d.mantissa < 29 :=
    (Nat.log_lt_iff_lt_pow (by decide) h).2 (d.mantissa_lt.trans (by norm_num))
  rw [leadingExponent_eq h]
  omega

theorem leadingExponent_eq_log {d : Decimal} (h : d.mantissa ≠ 0) :
    d.leadingExponent = Int.log 10 |d.value| := by
  have hten : (10 : ℚ) ≠ 0 := by norm_num
  have hpower : (10 : ℚ) ^ Nat.log 10 d.mantissa ≤ d.mantissa :=
    mod_cast Nat.pow_log_le_self 10 h
  have hpower' : (d.mantissa : ℚ) < 10 ^ (Nat.log 10 d.mantissa + 1) :=
    mod_cast Nat.lt_pow_succ_log_self (by decide) d.mantissa
  rw [abs_value, magnitude, leadingExponent_eq h]
  refine (Binary64.log_eq ?_ ?_).symm
  · rw [zpow_sub₀ hten, zpow_natCast, zpow_natCast]
    gcongr
  · rw [sub_add_eq_add_sub, zpow_sub₀ hten, ← Nat.cast_succ, zpow_natCast, zpow_natCast]
    gcongr

/-! ### Places -/

theorem value_roundPlaces (d : Decimal) (places : ℕ) :
    (d.roundPlaces places).value = roundedAt (-places) d.value := by
  have hten : (10 : ℚ) ≠ 0 := by norm_num
  nth_rewrite 2 [value]
  rw [roundedAt_signFactor_mul _ _ d.magnitude_nonneg, roundPlaces]
  split_ifs with h
  · have hquotient : d.magnitude / 10 ^ (-places : ℤ) =
        (d.mantissa : ℚ) / 10 ^ (d.scale - places) := by
      rw [magnitude, zpow_neg, div_inv_eq_mul, zpow_natCast, ← Nat.sub_add_cancel h.2.le, pow_add]
      field_simp
      rw [Nat.sub_add_cancel h.2.le]
    rw [value_normalized, hquotient, ← divideHalfUp_eq, Int.cast_natCast, zpow_neg, zpow_natCast,
      div_eq_mul_inv]
  · have hscale : d.scale ≤ places := by
      have hmax := d.scale_le
      omega
    rw [round_intCast_div (d.mantissa * 10 ^ (places - d.scale) : ℕ), value]
    rw [magnitude, zpow_neg, zpow_natCast, ← Nat.sub_add_cancel hscale, pow_add]
    push_cast
    field_simp
    rw [Nat.sub_add_cancel hscale]

end Decimal

end AssessmentItem
