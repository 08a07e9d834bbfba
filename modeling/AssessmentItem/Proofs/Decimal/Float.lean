import AssessmentItem.Proofs.Binary64.Operations
import AssessmentItem.Proofs.Decimal.Basic

/-!
# Decimal numbers as floating-point numbers

A decimal number becomes a floating-point number through its whole part and the rest.  The powers of
ten up to `10 ^ 22` are floating-point numbers, and with fifteen digits the errors on the way stay
below a half of the last digit, so they are rounded away, and what is left is one quotient, which is
rounded to nearest.  Without digits after the point there is nothing but the conversion of an
integer.

## Main results

* `Binary64.value?_powerBySquaring` : powers of ten are exact.
* `Binary64.value?_roundHalfAway` : the nearest whole number.
* `Decimal.isNearest_toFloat` : the floating-point number of a decimal is the nearest one.
-/

namespace AssessmentItem

open Binary64

namespace Binary64

/-! ### Whole numbers -/

theorem value?_ofNat {n : ℕ} (hn : n ≤ 2 ^ 53) : value? (.ofNat n) = some (n : ℚ) := by
  have hround := rounds_ofNat n
  rw [← Int.cast_natCast] at hround ⊢
  exact hround.value?_intCast hn

theorem value?_signed (negative : Bool) {n : ℕ} (hn : n ≤ 2 ^ 53) :
    value? (signed negative n) = some (signFactor negative * n) := by
  cases negative with
  | false =>
    rw [signed, if_neg Bool.false_ne_true, value?_ofNat hn, signFactor, if_neg Bool.false_ne_true,
      one_mul]
  | true =>
    rw [signed, if_pos rfl, value?_neg (value?_ofNat hn), signFactor, if_pos rfl, neg_one_mul]

/-- A quotient by `2 ^ (k + 1)` that is nearer than a half to a whole number comes to it after half
the divisor is added. -/
theorem add_half_div_eq {m n k : ℕ} (hnear : |(m : ℚ) / 2 ^ (k + 1) - n| < 1 / 2) :
    (m + 2 ^ k) / 2 ^ (k + 1) = n := by
  have hpos : (0 : ℚ) < 2 ^ k := by positivity
  obtain ⟨hlow, hhigh⟩ := abs_lt.1 hnear
  rw [pow_succ] at hlow hhigh
  have hlow : (n : ℚ) * (2 ^ k * 2) < m + 2 ^ k := by
    have h : (n : ℚ) - 1 / 2 < m / (2 ^ k * 2) := by linarith
    rw [lt_div_iff₀ (by positivity)] at h
    linarith
  have hhigh : (m : ℚ) + 2 ^ k < (n + 1) * (2 ^ k * 2) := by
    have h : (m : ℚ) / (2 ^ k * 2) < n + 1 / 2 := by linarith
    rw [div_lt_iff₀ (by positivity)] at h
    linarith
  rw [pow_succ]
  refine Nat.div_eq_of_lt_le ?_ ?_
  · exact_mod_cast hlow.le
  · exact_mod_cast hhigh

/-- The sign of a number that is not negative does not matter, nor that of the whole number it is
nearer to than a half: with a minus sign both are zero. -/
theorem signFactor_mul_of_near {negative : Bool} {q : ℚ} {n : ℕ} (hq : 0 ≤ q)
    (hpos : 0 ≤ signFactor negative * q) (hnear : |signFactor negative * q - n| < 1 / 2) :
    signFactor negative * q = q ∧ signFactor negative * n = n := by
  cases negative with
  | false => exact ⟨one_mul _, one_mul _⟩
  | true =>
    rw [signFactor, if_pos rfl, neg_one_mul] at hpos hnear
    obtain rfl : q = 0 := le_antisymm (neg_nonneg.1 hpos) hq
    obtain ⟨hlow, -⟩ := abs_lt.1 hnear
    have hlt : n < 1 := by exact_mod_cast (by linarith : (n : ℚ) < 1)
    obtain rfl := Nat.lt_one_iff.1 hlt
    rw [Nat.cast_zero, mul_zero]
    exact ⟨rfl, rfl⟩

/-- What is nearer than a half to a whole number `n` is rounded to it. -/
theorem value?_roundHalfAway {x : Float} {a : ℚ} {n : ℕ} (hx : value? x = some a) (ha : 0 ≤ a)
    (hn : n ≤ 2 ^ 53) (hnear : |a - n| < 1 / 2) : value? (roundHalfAway x) = some (n : ℚ) := by
  obtain ⟨⟨negative, m, e⟩, hp, rfl⟩ := Option.map_eq_some_iff.1 hx
  rw [roundHalfAway, hp]
  cases e with
  | ofNat k =>
    -- The number is a whole one, so it is that which is nearer than a half.
    have hwhole : ∃ l : ℤ, Parts.value ⟨negative, m, .ofNat k⟩ = l := by
      refine ⟨(if negative then -1 else 1) * m * 2 ^ k, ?_⟩
      rw [Parts.value, Int.ofNat_eq_natCast, zpow_natCast]
      push_cast
      rfl
    obtain ⟨l, hl⟩ := hwhole
    obtain ⟨hlow, hhigh⟩ := abs_lt.1 hnear
    rw [hl] at hlow hhigh hx
    have hlow : (n : ℤ) < l + 1 := by exact_mod_cast (by linarith : (n : ℚ) < l + 1)
    have hhigh : l < (n : ℤ) + 1 := by exact_mod_cast (by linarith : (l : ℚ) < n + 1)
    obtain rfl : l = n := by omega
    exact hx
  | negSucc k =>
    have hvalue : Parts.value ⟨negative, m, .negSucc k⟩ =
        signFactor negative * (m / 2 ^ (k + 1)) := by
      rw [Parts.value, zpow_negSucc, signFactor]
      ring
    rw [hvalue] at ha hnear
    obtain ⟨hquotient, hsign⟩ := signFactor_mul_of_near (by positivity) ha hnear
    rw [hquotient] at hnear
    dsimp only
    rw [Nat.pow_eq, Nat.pow_eq, add_half_div_eq hnear, value?_signed negative hn, hsign]

/-! ### Powers of ten -/

theorem exists_value_pow_ten {s : ℕ} (hs : s ≤ 22) : ∃ w, value? w = some ((10 : ℚ) ^ s) := by
  have hfive : 5 ^ s < 2 ^ 53 :=
    (Nat.pow_le_pow_right (by decide) hs).trans_lt (by norm_num)
  obtain ⟨w, hw⟩ := exists_value (k := (5 ^ s : ℕ)) (g := s) (by rwa [Int.natAbs_natCast])
    (by omega) (by omega)
  refine ⟨w, hw.trans (congrArg some ?_)⟩
  rw [zpow_natCast]
  push_cast
  rw [← mul_pow]
  norm_num

theorem value?_ofNat_pow_ten {s : ℕ} (hs : s ≤ 22) :
    value? (.ofNat (Nat.pow 10 s)) = some ((10 : ℚ) ^ s) := by
  obtain ⟨w, hw⟩ := exists_value_pow_ten hs
  have hround := rounds_ofNat (Nat.pow 10 s)
  rw [Nat.pow_eq, Nat.cast_pow, Nat.cast_ofNat] at hround
  exact hround.value?_eq hw

theorem value?_mul_pow_ten {x y : Float} {i j : ℕ} (hx : value? x = some ((10 : ℚ) ^ i))
    (hy : value? y = some ((10 : ℚ) ^ j)) (h : i + j ≤ 22) :
    value? (x * y) = some ((10 : ℚ) ^ (i + j)) := by
  obtain ⟨w, hw⟩ := exists_value_pow_ten h
  have hround := rounds_mul hx hy
  rw [← pow_add] at hround
  exact hround.value?_eq hw

theorem value?_ten : value? 10 = some ((10 : ℚ) ^ 1) := by
  have h : parts? 10 = some ⟨false, 10 * 2 ^ 49, -49⟩ := by decide
  rw [value?, h]
  norm_num [Parts.value]

/-- Every step of `powerBySquaring` is exact, since the powers on the way are no greater than the
last one. -/
theorem value?_powerBySquaring {fuel n i j : ℕ} {base result : Float}
    (hbase : value? base = some ((10 : ℚ) ^ i)) (hresult : value? result = some ((10 : ℚ) ^ j))
    (hn : n ≤ fuel) (h : i * n + j ≤ 22) :
    value? (Decimal.powerBySquaring base result n fuel) = some ((10 : ℚ) ^ (i * n + j)) := by
  induction fuel generalizing n i j base result with
  | zero =>
    obtain rfl : n = 0 := by omega
    rwa [mul_zero, zero_add]
  | succ fuel ih =>
    have hsplit : i * n = (i + i) * (n / 2) + i * (n % 2) := by
      conv_lhs => rw [← Nat.div_add_mod n 2]
      ring
    rw [hsplit] at h ⊢
    have hnext : value? (if n % 2 = 1 then result * base else result) =
        some ((10 : ℚ) ^ (i * (n % 2) + j)) := by
      split_ifs with hodd
      · rw [hodd, mul_one] at h ⊢
        rw [add_comm i j]
        exact value?_mul_pow_ten hresult hbase (by omega)
      · rwa [show n % 2 = 0 by omega, mul_zero, zero_add]
    rw [Decimal.powerBySquaring]
    generalize (if n % 2 = 1 then result * base else result) = next at hnext ⊢
    split_ifs with hlast
    · rwa [hlast, mul_zero, zero_add]
    · have hle : (i + i) * 1 ≤ (i + i) * (n / 2) := Nat.mul_le_mul_left _ (by omega)
      rw [add_assoc] at h ⊢
      exact ih (value?_mul_pow_ten hbase hbase (by omega)) hnext (by omega) h

/-! ### The errors on the way -/

theorem Rounds.abs_sub_le {z r : ℚ} {x : Float} (h : Rounds z x) (hx : value? x = some r)
    (hz : 1 / 10 ^ 23 ≤ z) : |z - r| ≤ z / 2 ^ 53 := by
  have hpos : 0 < z := lt_of_lt_of_le (by positivity) hz
  have hnormal : (2 : ℚ) ^ (-1022 : ℤ) ≤ |z| :=
    calc (2 : ℚ) ^ (-1022 : ℤ) ≤ 2 ^ (-100 : ℤ) := zpow_le_zpow_right₀ one_le_two (by decide)
      _ ≤ 1 / 10 ^ 23 := by norm_num
      _ ≤ z := hz
      _ ≤ |z| := le_abs_self z
  have hle := h.abs_sub_value_le hx hnormal
  rwa [abs_of_pos hpos] at hle

/-- What is rounded between zero and `2 ^ 53` is finite and between them. -/
theorem Rounds.exists_value_nonneg {z : ℚ} {x : Float} (h : Rounds z x) (hnonneg : 0 ≤ z)
    (hle : z ≤ 2 ^ 53) : ∃ r, value? x = some r ∧ 0 ≤ r := by
  obtain ⟨w, hw⟩ := exists_value_intCast (show (2 ^ 53 : ℤ).natAbs ≤ 2 ^ 53 by decide)
  obtain ⟨r, hr, hpos, -⟩ := h.exists_value value?_zero hw hnonneg (by exact_mod_cast hle)
  exact ⟨r, hr, hpos⟩

end Binary64

namespace Decimal

/-- An error keeps its share of the number if both are multiplied by `c`. -/
theorem abs_sub_mul_le {z r c : ℚ} (h : |z - r| ≤ z / 2 ^ 53) (hc : 0 < c) :
    |z * c - r * c| ≤ z * c / 2 ^ 53 := by
  rw [← sub_mul, abs_mul, abs_of_pos hc, mul_div_right_comm]
  exact mul_le_mul_of_nonneg_right h hc.le

/-- A number of fifteen digits is found again by rounding once it has been put together from its
`whole` part and the `rest`. -/
theorem value?_rounded_product {whole rest power : Float} {w f s : ℕ} (hs : s ≤ 22)
    (hwhole : value? whole = some (w : ℚ)) (hpower : value? power = some ((10 : ℚ) ^ s))
    (hrest : Rounds (f / 10 ^ s) rest) (hpos : 0 < f) (hlt : f < 10 ^ s)
    (hsum : w * 10 ^ s + f ≤ 10 ^ 15) :
    value? (roundHalfAway ((whole + rest) * power)) = some ((w * 10 ^ s + f : ℕ) : ℚ) := by
  have hunit : (1 : ℚ) ≤ 10 ^ s := one_le_pow₀ (by norm_num)
  have hunit' : (10 : ℚ) ^ s ≤ 10 ^ 22 := pow_le_pow_right₀ (by norm_num) hs
  have hsum' : (w : ℚ) * 10 ^ s + f ≤ 10 ^ 15 := mod_cast hsum
  have hcast : ((w * 10 ^ s + f : ℕ) : ℚ) = w * 10 ^ s + f := by push_cast; rfl
  have hf : (1 : ℚ) ≤ f := mod_cast hpos
  have hfu : (f : ℚ) < 10 ^ s := mod_cast hlt
  have hw : (0 : ℚ) ≤ w := w.cast_nonneg
  generalize (10 : ℚ) ^ s = unit at *
  have hunitPos : 0 < unit := one_pos.trans_le hunit
  have hsmall : 1 / 10 ^ 22 ≤ (f : ℚ) / unit := div_le_div₀ (by positivity) hf hunitPos hunit'
  have hone : (f : ℚ) / unit ≤ 1 := (div_le_one hunitPos).2 hfu.le
  have hwle : (w : ℚ) ≤ w * unit := le_mul_of_one_le_right hw hunit
  -- The rest, the sum and the product each are wrong by one part in `2 ^ 53` at most.
  obtain ⟨q, hq, hqnonneg⟩ := hrest.exists_value_nonneg (by positivity) (by linarith)
  have herror := hrest.abs_sub_le hq (by norm_num at hsmall ⊢; linarith)
  obtain ⟨hq₁, hq₂⟩ := abs_le.1 herror
  obtain ⟨hr₁, hr₂⟩ := abs_le.1 (abs_sub_mul_le herror hunitPos)
  rw [div_mul_cancel₀ _ hunitPos.ne'] at hr₁ hr₂
  obtain ⟨v, hv, hvnonneg⟩ := (rounds_add hwhole hq).exists_value_nonneg (by positivity)
    (by linarith)
  have herror := (rounds_add hwhole hq).abs_sub_le hv (by norm_num at hsmall ⊢; linarith)
  obtain ⟨hv₁, hv₂⟩ := abs_le.1 herror
  obtain ⟨hs₁, hs₂⟩ := abs_le.1 (abs_sub_mul_le herror hunitPos)
  rw [add_mul] at hs₁ hs₂
  have hvle : v ≤ v * unit := le_mul_of_one_le_right hvnonneg hunit
  obtain ⟨t, ht, htnonneg⟩ := (rounds_mul hv hpower).exists_value_nonneg (by positivity)
    (by linarith)
  obtain ⟨ht₁, ht₂⟩ := abs_le.1 ((rounds_mul hv hpower).abs_sub_le ht
    (by norm_num at hsmall ⊢; linarith))
  refine value?_roundHalfAway ht htnonneg (by omega) ?_
  rw [hcast, abs_lt]
  exact ⟨by linarith, by linarith⟩

theorem isNearest_signed (negative : Bool) {z : ℚ} {x : Float}
    (h : Rounds z x ∧ ∃ r, value? x = some r) :
    IsNearest (signFactor negative * z) (if negative then -x else x) := by
  obtain ⟨hround, r, hr⟩ := h
  cases negative with
  | false => exact (one_mul z).symm ▸ hround.isNearest hr
  | true => exact (neg_one_mul z).symm ▸ (hround.neg hr).isNearest (value?_neg hr)

/-- The rest `f / 10 ^ s` is found to be zero only if it is. -/
theorem rounds_rest {s f : ℕ} (hs : s ≤ 22) (hf : f ≤ 10 ^ 15) (hlt : f < 10 ^ s) :
    Rounds (f / 10 ^ s) (.ofNat f / .ofNat (Nat.pow 10 s)) ∧
      ((Float.ofNat f / .ofNat (Nat.pow 10 s) == 0) = true ↔ f = 0) := by
  have hunit : (0 : ℚ) < 10 ^ s := by positivity
  have hround := rounds_div (value?_ofNat (n := f) (by omega)) (value?_ofNat_pow_ten hs) hunit.ne'
  refine ⟨hround, ?_⟩
  have hone : (f : ℚ) / 10 ^ s ≤ 1 := by
    rw [div_le_one hunit]
    exact_mod_cast hlt.le
  obtain ⟨q, hq, -⟩ := hround.exists_value_nonneg (by positivity) (by linarith)
  rw [beq_iff hq value?_zero]
  constructor
  · rintro rfl
    by_contra hne
    have hunit' : (10 : ℚ) ^ s ≤ 10 ^ 22 := pow_le_pow_right₀ (by norm_num) hs
    have hpos : (1 : ℚ) ≤ f := mod_cast Nat.pos_of_ne_zero hne
    have hsmall : 1 / 10 ^ 22 ≤ (f : ℚ) / 10 ^ s := div_le_div₀ (by positivity) hpos hunit hunit'
    have herror := (abs_le.1 (hround.abs_sub_le hq (by norm_num at hsmall ⊢; linarith))).2
    norm_num at hsmall herror
    linarith
  · rintro rfl
    rw [Nat.cast_zero, zero_div] at hround
    exact hround.eq_zero hq

/-- The number `d.toFloat` is the nearest one to `d` if this has no digits after the point, or few
digits of which not too many stand there. -/
theorem isNearest_toFloat {d : Decimal} (h : d.scale = 0 ∨ d.scale ≤ 22 ∧ d.mantissa ≤ 10 ^ 15) :
    IsNearest d.value d.toFloat := by
  refine isNearest_signed d.negative (z := d.magnitude) ?_
  rw [magnitude]
  split_ifs with hscale
  · have hlt : (d.mantissa : ℚ) ≤ 2 ^ 96 := mod_cast d.mantissa_lt.le
    obtain ⟨w, hw⟩ := exists_value_two_pow (show 96 ≤ 971 by decide)
    obtain ⟨r, hr, -⟩ := (rounds_ofNat d.mantissa).exists_value value?_zero hw
      d.mantissa.cast_nonneg hlt
    rw [hscale, pow_zero, div_one]
    exact ⟨rounds_ofNat d.mantissa, r, hr⟩
  · obtain ⟨hs, hmantissa⟩ := h.resolve_left hscale
    have hwhole : d.mantissa / 10 ^ d.scale ≤ d.mantissa := Nat.div_le_self _ _
    have hrest : d.mantissa % 10 ^ d.scale ≤ d.mantissa := Nat.mod_le _ _
    have hlt : d.mantissa % 10 ^ d.scale < 10 ^ d.scale := Nat.mod_lt _ (by positivity)
    have hsplit := Nat.div_add_mod' d.mantissa (10 ^ d.scale)
    obtain ⟨hround, hzero⟩ := rounds_rest hs (hrest.trans hmantissa) hlt
    dsimp only
    rw [Nat.pow_eq] at *
    split_ifs with h0
    · rw [hzero.1 h0, add_zero] at hsplit
      have heq : (d.mantissa : ℚ) / 10 ^ d.scale = (d.mantissa / 10 ^ d.scale : ℕ) := by
        rw [div_eq_iff (by positivity)]
        exact_mod_cast hsplit.symm
      rw [heq]
      exact ⟨rounds_ofNat _, _, value?_ofNat (by omega)⟩
    · have hpower := value?_powerBySquaring (i := 1) (j := 0) value?_ten value?_one le_rfl
        (show 1 * d.scale + 0 ≤ 22 by omega)
      rw [one_mul, add_zero] at hpower
      have hproduct := value?_rounded_product hs (value?_ofNat (by omega)) hpower hround
        (Nat.pos_of_ne_zero (hzero.not.1 h0)) hlt (hsplit.trans_le hmantissa)
      rw [hsplit] at hproduct
      have hquotient := rounds_div hproduct hpower (by positivity)
      have hle : (d.mantissa : ℚ) / 10 ^ d.scale ≤ 2 ^ 53 := by
        have hmantissa : (d.mantissa : ℚ) ≤ 10 ^ 15 := mod_cast hmantissa
        refine (div_le_self (by positivity) (one_le_pow₀ (by norm_num))).trans ?_
        linarith
      obtain ⟨r, hr, -⟩ := hquotient.exists_value_nonneg (by positivity) hle
      exact ⟨hquotient, r, hr⟩

end Decimal

end AssessmentItem
