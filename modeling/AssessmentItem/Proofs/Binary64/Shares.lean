import AssessmentItem.Proofs.Binary64.Literal

/-!
# Errors as shares of a number

An operation whose exact result is neither too great nor too small gives a number that is wrong by
one part in `2 ^ 53` at most.  Over a sum of squares such errors add up to a few parts, so that two
results are compared as the exact ones are unless these are that near to each other.  A power of two
as a factor brings no error, and what is rounded after it is what is rounded before it.

## Main definitions

* `Binary64.Moderate` : magnitudes within a power of two and its inverse.
* `Binary64.Within` : numbers that a few roundings have moved away from an exact one.

## Main results

* `Binary64.Rounds.exists_near` : one rounding.
* `Binary64.exists_within_squares` : the sum of two squares.
* `Binary64.Within.le_iff_le` : comparison of numbers that are far from each other.
* `Binary64.Rounds.value?_div_two_pow` : rounding of a number divided by a power of two.
-/

namespace AssessmentItem.Binary64

variable {k l n i : ℕ} {z w v t : ℚ} {x y : Float} {a b c d : ℚ}

/-! ### Magnitudes -/

/-- Zero, and the magnitudes between `2 ^ n` and its inverse. -/
def Moderate (n : ℕ) (z : ℚ) : Prop := z = 0 ∨ 1 / 2 ^ n ≤ z ∧ z ≤ 2 ^ n

theorem Moderate.nonneg (h : Moderate n z) : 0 ≤ z := by
  obtain rfl | ⟨hlow, -⟩ := h
  · exact le_rfl
  · exact le_trans (by positivity) hlow

theorem Moderate.le (h : Moderate n z) : z ≤ 2 ^ n := by
  obtain rfl | ⟨-, hhigh⟩ := h
  · positivity
  · exact hhigh

theorem Moderate.mul (hz : Moderate n z) (hw : Moderate i w) : Moderate (n + i) (z * w) := by
  obtain rfl | ⟨hzl, hzh⟩ := hz
  · exact .inl (zero_mul w)
  obtain rfl | ⟨hwl, hwh⟩ := hw
  · exact .inl (mul_zero z)
  have hzpos : 0 ≤ z := le_trans (by positivity) hzl
  refine .inr ⟨?_, ?_⟩
  · rw [pow_add, ← one_div_mul_one_div]
    exact mul_le_mul hzl hwl (by positivity) hzpos
  · rw [pow_add]
    exact mul_le_mul hzh hwh (le_trans (by positivity) hwl) (by positivity)

theorem Moderate.inv (h : Moderate n z) : Moderate n z⁻¹ := by
  obtain rfl | ⟨hlow, hhigh⟩ := h
  · exact .inl inv_zero
  · have hpos : 0 < z := lt_of_lt_of_le (by positivity) hlow
    refine .inr ⟨?_, ?_⟩
    · rw [one_div]
      exact inv_anti₀ hpos hhigh
    · rw [one_div] at hlow
      exact inv_le_of_inv_le₀ (by positivity) hlow

theorem Moderate.add (hz : Moderate n z) (hw : Moderate n w) : Moderate (n + 1) (z + w) := by
  have hsum : z + w ≤ 2 ^ (n + 1) := by
    rw [pow_succ, mul_two]
    exact add_le_add hz.le hw.le
  have hless : (1 : ℚ) / 2 ^ (n + 1) ≤ 1 / 2 ^ n :=
    one_div_le_one_div_of_le (by positivity) (pow_le_pow_right₀ one_le_two n.le_succ)
  obtain rfl | ⟨hzl, -⟩ := hz
  · obtain rfl | ⟨hwl, -⟩ := hw
    · exact .inl (add_zero 0)
    · exact .inr ⟨by linarith, hsum⟩
  · have hwpos := hw.nonneg
    exact .inr ⟨by linarith, hsum⟩

/-! ### One rounding -/

/-- The share of a number by which rounding it is wrong at most. -/
def share : ℚ := 1 / 2 ^ 53

theorem share_pos : 0 < share := by norm_num [share]

theorem share_lt_one : share < 1 := by norm_num [share]

theorem Rounds.exists_value_of_abs_le (h : Rounds z x) (hn : n ≤ 971) (hz : |z| ≤ 2 ^ n) :
    ∃ v, value? x = some v ∧ |v| ≤ 2 ^ n := by
  obtain ⟨w, hw⟩ := exists_value_two_pow hn
  obtain ⟨hlow, hhigh⟩ := abs_le.1 hz
  obtain ⟨v, hv, hle, hge⟩ := h.exists_value (value?_neg hw) hw hlow hhigh
  exact ⟨v, hv, abs_le.2 ⟨hle, hge⟩⟩

theorem Rounds.le_abs (h : Rounds z x) (hx : value? x = some v) (hy : value? y = some b)
    (hz : b ≤ |z|) : b ≤ |v| := by
  rcases le_total 0 z with hnonneg | hneg
  · rw [abs_of_nonneg hnonneg] at hz
    exact ((le_iff hy hx).1 ((h.sides y b hy).1 hz)).trans (le_abs_self v)
  · rw [abs_of_nonpos hneg] at hz
    have hle := (le_iff hx (value?_neg hy)).1 ((h.sides _ _ (value?_neg hy)).2 (le_neg.1 hz))
    exact (le_neg.1 hle).trans (neg_le_abs v)

/-- What is rounded from zero or from a `Moderate` magnitude is wrong by a `share` of it. -/
theorem Rounds.exists_near (h : Rounds z x) (hz : Moderate n |z|) (hn : n ≤ 900) :
    ∃ v, value? x = some v ∧ |z - v| ≤ share * |z| := by
  obtain hzero | ⟨hlow, hhigh⟩ := hz
  · obtain rfl := abs_eq_zero.1 hzero
    exact ⟨0, h.value?_eq value?_zero, by norm_num⟩
  · obtain ⟨v, hv, -⟩ := h.exists_value_of_abs_le (by omega) hhigh
    refine ⟨v, hv, ?_⟩
    rw [share, one_div_mul_eq_div]
    refine h.abs_sub_value_le hv (le_trans ?_ hlow)
    rw [one_div, ← zpow_natCast, ← zpow_neg]
    exact zpow_le_zpow_right₀ one_le_two (by omega)

/-! ### Several roundings -/

/-- A number to which `k` roundings may bring an exact one. -/
structure Within (k : ℕ) (z v : ℚ) : Prop where
  le : (1 - share) ^ k * z ≤ v
  ge : v ≤ (1 + share) ^ k * z

theorem Within.refl (z : ℚ) : Within 0 z z where
  le := by rw [pow_zero, one_mul]
  ge := by rw [pow_zero, one_mul]

theorem Within.nonneg (h : Within k z v) (hz : 0 ≤ z) : 0 ≤ v :=
  le_trans (mul_nonneg (pow_nonneg (sub_nonneg.2 share_lt_one.le) k) hz) h.le

theorem Within.mono (h : Within k z v) (hz : 0 ≤ z) (hkl : k ≤ l) : Within l z v where
  le := by
    refine le_trans (mul_le_mul_of_nonneg_right ?_ hz) h.le
    exact pow_le_pow_of_le_one (sub_nonneg.2 share_lt_one.le) (sub_le_self 1 share_pos.le) hkl
  ge := by
    refine le_trans h.ge (mul_le_mul_of_nonneg_right ?_ hz)
    exact pow_le_pow_right₀ (le_add_of_nonneg_right share_pos.le) hkl

theorem Within.add (h : Within k z v) (h' : Within k w t) : Within k (z + w) (v + t) where
  le := by
    rw [mul_add]
    exact add_le_add h.le h'.le
  ge := by
    rw [mul_add]
    exact add_le_add h.ge h'.ge

/-- One more rounding of a number that is `Within`. -/
theorem Within.succ (h : Within k z v) (hz : 0 ≤ z) (ht : |v - t| ≤ share * |v|) :
    Within (k + 1) z t := by
  rw [abs_of_nonneg (h.nonneg hz)] at ht
  obtain ⟨hlow, hhigh⟩ := abs_le.1 ht
  have hone : 0 ≤ 1 - share := sub_nonneg.2 share_lt_one.le
  have hone' : 0 ≤ 1 + share := add_nonneg zero_le_one share_pos.le
  constructor
  · calc (1 - share) ^ (k + 1) * z = (1 - share) * ((1 - share) ^ k * z) := by
          rw [pow_succ', mul_assoc]
      _ ≤ (1 - share) * v := mul_le_mul_of_nonneg_left h.le hone
      _ ≤ t := by linarith
  · calc t ≤ (1 + share) * v := by linarith
      _ ≤ (1 + share) * ((1 + share) ^ k * z) := mul_le_mul_of_nonneg_left h.ge hone'
      _ = (1 + share) ^ (k + 1) * z := by rw [pow_succ', mul_assoc]

/-- The square of a number that is wrong by a `share` is wrong by twice the share. -/
theorem within_mul_self (hv : |z - v| ≤ share * |z|) : Within 2 (z * z) (v * v) := by
  obtain ⟨hlow, hhigh⟩ := abs_le.1 ((abs_abs_sub_abs_le z v).trans hv)
  rw [← abs_mul_abs_self z, ← abs_mul_abs_self v]
  have hpos : 0 ≤ (1 - share) * |z| :=
    mul_nonneg (sub_nonneg.2 share_lt_one.le) (abs_nonneg z)
  constructor
  · calc (1 - share) ^ 2 * (|z| * |z|) = ((1 - share) * |z|) * ((1 - share) * |z|) := by ring
      _ ≤ |v| * |v| := mul_self_le_mul_self hpos (by linarith)
  · calc |v| * |v| ≤ ((1 + share) * |z|) * ((1 + share) * |z|) :=
        mul_self_le_mul_self (abs_nonneg v) (by linarith)
      _ = (1 + share) ^ 2 * (|z| * |z|) := by ring

/-- A few roundings keep a `Moderate` magnitude within the double of its bounds. -/
theorem Within.moderate (h : Within k z v) (hk : k ≤ 4) (hz : Moderate n z) :
    Moderate (n + 1) v := by
  obtain ⟨hle, hge⟩ := h.mono hz.nonneg hk
  have hlow : (1 : ℚ) / 2 ≤ (1 - share) ^ 4 := by norm_num [share]
  have hhigh : (1 + share) ^ 4 ≤ 2 := by norm_num [share]
  obtain rfl | ⟨hzl, hzh⟩ := hz
  · rw [mul_zero] at hle hge
    exact .inl (le_antisymm hge hle)
  · have hpos : 0 ≤ z := le_trans (by positivity) hzl
    have hhalf := mul_le_mul_of_nonneg_right hlow hpos
    have hdouble := mul_le_mul_of_nonneg_right hhigh hpos
    refine .inr ⟨?_, ?_⟩
    · rw [pow_succ, ← one_div_mul_one_div]
      linarith
    · rw [pow_succ]
      linarith

theorem Rounds.exists_within (h : Rounds w x) (hw : Within k z w) (hz : Moderate n z)
    (hk : k ≤ 4) (hn : n < 900) : ∃ v, value? x = some v ∧ Within (k + 1) z v := by
  have hmoderate := hw.moderate hk hz
  rw [← abs_of_nonneg hmoderate.nonneg] at hmoderate
  obtain ⟨v, hv, hnear⟩ := h.exists_near hmoderate hn
  exact ⟨v, hv, hw.succ hz.nonneg hnear⟩

/-- Both products `x * x` and `y * y` and their sum are rounded. -/
theorem exists_within_squares (hx : value? x = some a) (hy : value? y = some b)
    (ha : Within k c (a * a)) (hb : Within k d (b * b)) (hc : Moderate n c) (hd : Moderate n d)
    (hk : k ≤ 3) (hn : n ≤ 800) :
    ∃ v, value? (x * x + y * y) = some v ∧ Within (k + 2) (c + d) v := by
  obtain ⟨v, hv, hv'⟩ := (rounds_mul hx hx).exists_within ha hc (by omega) (by omega)
  obtain ⟨t, ht, ht'⟩ := (rounds_mul hy hy).exists_within hb hd (by omega) (by omega)
  exact (rounds_add hv ht).exists_within (hv'.add ht') (hc.add hd) (by omega) (by omega)

/-- Errors of a few shares do not change how `z` and `w` compare unless these are that near to each
other. -/
theorem Within.le_iff_le (hv : Within 4 z v) (ht : Within 1 w t) (hw : 0 ≤ w)
    (hfar : w / 2 ^ 50 < |z - w|) : v ≤ t ↔ z ≤ w := by
  obtain ⟨hvl, hvh⟩ := hv
  obtain ⟨htl, hth⟩ := ht
  rw [pow_one] at htl hth
  rcases le_or_gt z w with hle | hlt
  · refine iff_of_true ?_ hle
    have hfew : (1 + share) ^ 4 * (1 - 1 / 2 ^ 50) ≤ 1 - share := by norm_num [share]
    have hpos : 0 ≤ (1 + share) ^ 4 := pow_nonneg (add_nonneg zero_le_one share_pos.le) 4
    rw [abs_of_nonpos (sub_nonpos.2 hle)] at hfar
    calc v ≤ (1 + share) ^ 4 * z := hvh
      _ ≤ (1 + share) ^ 4 * ((1 - 1 / 2 ^ 50) * w) :=
        mul_le_mul_of_nonneg_left (by linarith) hpos
      _ = (1 + share) ^ 4 * (1 - 1 / 2 ^ 50) * w := (mul_assoc ..).symm
      _ ≤ (1 - share) * w := mul_le_mul_of_nonneg_right hfew hw
      _ ≤ t := htl
  · refine iff_of_false (not_le.2 ?_) (not_le.2 hlt)
    have hfew : 1 + share ≤ (1 - share) ^ 4 * (1 + 1 / 2 ^ 50) := by norm_num [share]
    have hpos : 0 < (1 - share) ^ 4 := pow_pos (sub_pos.2 share_lt_one) 4
    rw [abs_of_pos (sub_pos.2 hlt)] at hfar
    calc t ≤ (1 + share) * w := hth
      _ ≤ (1 - share) ^ 4 * (1 + 1 / 2 ^ 50) * w := mul_le_mul_of_nonneg_right hfew hw
      _ = (1 - share) ^ 4 * ((1 + 1 / 2 ^ 50) * w) := mul_assoc ..
      _ < (1 - share) ^ 4 * z := mul_lt_mul_of_pos_left (by linarith) hpos
      _ ≤ v := hvl

/-! ### Powers of two -/

/-- The parts of a number that is divided by `2 ^ n`. -/
def Parts.shift (p : Parts) (n : ℕ) : Parts := ⟨p.negative, p.significand, p.exponent - n⟩

theorem Parts.value_shift (p : Parts) (n : ℕ) : (p.shift n).value = p.value / 2 ^ n := by
  rw [Parts.value, Parts.value, Parts.shift, zpow_sub₀ two_ne_zero, zpow_natCast, mul_div_assoc]

theorem OnGrid.mul_two_pow (hb : OnGrid b) (n : ℕ) : OnGrid (b * 2 ^ n) := by
  obtain ⟨k, g, hk, hg, rfl⟩ := hb
  refine ⟨k, g + n, hk, by omega, ?_⟩
  rw [zpow_add₀ two_ne_zero, zpow_natCast, mul_assoc]

/-- The numbers among which the nearest is sought are not fewer after the division, and none of them
is nearer. -/
theorem Nearest.shift {p : Parts} (h : Nearest z p) (n : ℕ) : Nearest (z / 2 ^ n) (p.shift n) := by
  have hpos : (0 : ℚ) < 2 ^ n := by positivity
  have hscale (u : ℚ) : |z / 2 ^ n - u| = |z - u * 2 ^ n| / 2 ^ n := by
    rw [← abs_of_pos hpos, ← abs_div, abs_of_pos hpos, sub_div, mul_div_cancel_right₀ _ hpos.ne']
  have hvalue : (p.shift n).value * 2 ^ n = p.value := by
    rw [p.value_shift, div_mul_cancel₀ _ hpos.ne']
  constructor
  · intro b hb
    rw [hscale, hscale, hvalue]
    exact div_le_div_of_nonneg_right (h.le _ (hb.mul_two_pow n)) hpos.le
  · intro b hb hne heq
    rw [hscale, hscale, hvalue, div_left_inj' hpos.ne'] at heq
    refine h.even _ (hb.mul_two_pow n) (fun h ↦ hne ?_) heq
    rw [p.value_shift, ← h, mul_div_cancel_right₀ _ hpos.ne']

theorem lt_exponent {p : Parts} (hp : parts? x = some p) (hle : 2 ^ n ≤ |p.value|) :
    (n : ℤ) - 53 < p.exponent := by
  have hcanonical := (parts?_canonical hp).1
  by_contra! hsmall
  rw [p.value_abs] at hle
  have hlt : (p.significand : ℚ) < 2 ^ 53 := mod_cast hcanonical.lt
  have hless : (p.significand : ℚ) * 2 ^ p.exponent < 2 ^ n :=
    calc (p.significand : ℚ) * 2 ^ p.exponent < 2 ^ 53 * 2 ^ p.exponent := by gcongr
      _ ≤ 2 ^ 53 * 2 ^ ((n : ℤ) - 53) := by
        gcongr
        exact one_le_two
      _ = 2 ^ n := by
        rw [zpow_sub₀ two_ne_zero, zpow_natCast, zpow_ofNat]
        exact mul_div_cancel₀ _ (by norm_num)
  exact absurd hle hless.not_ge

/-- A number from `2 ^ 53` on has no digits after its point. -/
theorem exists_int_of_le_abs (hx : value? x = some v) (hv : 2 ^ 53 ≤ |v|) : ∃ k : ℤ, v = k := by
  obtain ⟨p, hp, rfl⟩ := Option.map_eq_some_iff.1 hx
  have hexponent := lt_exponent hp hv
  obtain ⟨m, -, hvalue⟩ := exists_signed p
  obtain ⟨e, he⟩ := Int.le.dest (show 0 ≤ p.exponent by omega)
  refine ⟨m * 2 ^ e, ?_⟩
  rw [hvalue, ← he, zero_add, zpow_natCast]
  push_cast
  rfl

/-- Division by `2 ^ n` brings no error. -/
theorem exists_value_div_two_pow (hx : value? x = some v) (hv : v = 0 ∨ 1 ≤ |v|) (hn : n ≤ 900) :
    ∃ w, value? w = some (v / 2 ^ n) := by
  obtain rfl | hone := hv
  · exact ⟨0, by rw [zero_div, value?_zero]⟩
  · obtain ⟨p, hp, rfl⟩ := Option.map_eq_some_iff.1 hx
    have hexponent := lt_exponent (n := 0) hp hone
    obtain ⟨⟨hlt, -, -⟩, he⟩ := parts?_canonical hp
    obtain ⟨k, hk, hvalue⟩ := exists_signed p
    obtain ⟨w, hw⟩ := exists_value (g := p.exponent - n) (hk ▸ hlt) (by omega) (by omega)
    refine ⟨w, hw.trans (congrArg some ?_)⟩
    rw [hvalue, zpow_sub₀ two_ne_zero, zpow_natCast, mul_div_assoc]

/-- What is rounded after the division by `2 ^ n` is what is rounded before it, divided. -/
theorem Rounds.value?_div_two_pow (h : Rounds z x) (hx : value? x = some v)
    (hz : z = 0 ∨ 1 ≤ z) (hle : z ≤ 2 ^ i) (hi : i ≤ 900) (hn : n ≤ 900)
    (hy : Rounds (z / 2 ^ n) y) :
    value? y = some (v / 2 ^ n) := by
  obtain rfl | hone := hz
  · obtain rfl := h.eq_zero hx
    rw [zero_div] at hy ⊢
    exact hy.value?_eq value?_zero
  · obtain ⟨hvone, -⟩ := h.sides 1 1 value?_one
    have hvone : 1 ≤ v := (le_iff value?_one hx).1 (hvone hone)
    obtain ⟨⟨negative, m, e⟩, hp, rfl⟩ := Option.map_eq_some_iff.1 hx
    have hnearest := (h.nearest _ hp).shift n
    rw [← Parts.value_shift]
    have hexponent := lt_exponent (n := 0) hp (hvone.trans (le_abs_self _))
    obtain ⟨⟨hlt, hleast, hfull⟩, -⟩ := parts?_canonical hp
    cases negative with
    | true =>
      have hvalue := Parts.value_eq .negative m e
      rw [isNegative, applySign] at hvalue
      have hpos : (0 : ℚ) ≤ m * 2 ^ e := by positivity
      linarith
    | false =>
      dsimp only at hlt hleast hfull hexponent
      have hm : 0 < m := by omega
      have hcanonical : Canonical m (e - n) := ⟨hlt, by omega, .inl (by omega)⟩
      have hsmall : |z / 2 ^ n| ≤ 2 ^ i := by
        rw [abs_of_nonneg (by positivity)]
        exact (div_le_self (by positivity) (one_le_pow₀ one_le_two)).trans hle
      obtain ⟨r, hr, -⟩ := hy.exists_value_of_abs_le (by omega) hsmall
      rw [value?, hy.parts?_eq hr hcanonical hm hnearest]
      rfl

end AssessmentItem.Binary64
