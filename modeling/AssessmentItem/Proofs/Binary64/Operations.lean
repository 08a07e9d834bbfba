import AssessmentItem.Proofs.Binary64.Rounding

/-!
# Floating-point arithmetic is rounded to nearest

Products, quotients, sums and differences of finite floating-point numbers are their exact results,
rounded to nearest, and so is the floating-point number of an integer.  Integers up to `2 ^ 53` are
therefore kept exactly.  An infinite operand of a sum makes the sum infinite.

## Main results

* `Binary64.rounds_mul`, `Binary64.rounds_div` : products and quotients.
* `Binary64.rounds_add`, `Binary64.rounds_sub` : sums and differences.
* `Binary64.unpack_add_infinity`, `Binary64.unpack_sub_infinity` : an infinite operand.
* `Binary64.exists_rounds_ofInteger` : the number of an integer.
* `Binary64.Rounds.value?_intCast` : results that are small integers are exact.
* `Binary64.eq_of_beq_ofInteger` : small integers have numbers of their own.
-/

namespace AssessmentItem.Binary64

open Float.Model Float.Model.UnpackedFloat

variable {x y : Float} {a b : ℚ}

/-! ### Signs -/

@[simp] theorem applySign_zero (s : Sign) : applySign s 0 = 0 := by
  cases s <;> simp [applySign]

theorem applySign_mul (s t : Sign) (a b : ℚ) :
    applySign s a * applySign t b = applySign (s * t) (a * b) := by
  cases s <;> cases t
  · exact neg_mul_neg a b
  · exact neg_mul a b
  · exact mul_neg a b
  · rfl

theorem applySign_div (s t : Sign) (a b : ℚ) :
    applySign s a / applySign t b = applySign (s / t) (a / b) := by
  cases s <;> cases t
  · exact neg_div_neg_eq a b
  · exact neg_div b a
  · exact div_neg a
  · rfl

theorem applySign_neg (s : Sign) (a : ℚ) : applySign (-s) a = -applySign s a := by
  cases s
  · exact (neg_neg a).symm
  · rfl

theorem cast_apply (s : Sign) (m : ℕ) (e : ℤ) :
    ((s.apply m : ℤ) : ℚ) * 2 ^ e = applySign s (m * 2 ^ e) := by
  cases s with
  | positive => rfl
  | negative =>
    rw [Sign.apply, Int.cast_neg, neg_mul]
    rfl

theorem exists_apply (n : ℤ) : ∃ s : Sign, n = s.apply n.natAbs :=
  (Int.natAbs_eq n).elim (fun h ↦ ⟨.positive, h⟩) fun h ↦ ⟨.negative, h⟩

/-- A significand that is made longer by `k` bits stands for the same number. -/
theorem mul_pow_mul_zpow (m k : ℕ) (e : ℤ) : ((m * 2 ^ k : ℕ) : ℚ) * 2 ^ (e - k) = m * 2 ^ e := by
  rw [zpow_sub₀ two_ne_zero, zpow_natCast]
  push_cast
  field_simp

/-- A significand that is made longer is at least as long as it was and the addition together. -/
theorem pow_le_mul_pow {m k n : ℕ} (hm : 0 < m) (h : n ≤ m.log2 + k) : 2 ^ n ≤ m * 2 ^ k :=
  calc 2 ^ n ≤ 2 ^ (m.log2 + k) := Nat.pow_le_pow_right two_pos h
    _ = 2 ^ m.log2 * 2 ^ k := pow_add ..
    _ ≤ m * 2 ^ k := Nat.mul_le_mul_right _ (Nat.log2_self_le hm.ne')

theorem nearest_of_value {z : ℚ} {s : Sign} {n : ℕ} {f : ℤ} (h : z = applySign s (n * 2 ^ f)) :
    Nearest z ⟨isNegative s, n, f⟩ := by
  rw [h, ← Parts.value_eq]
  exact nearest_self _

theorem rounds_zero (s : Sign) : Rounds 0 (.ofModel (.pack (.zero s))) := by
  refine rounds_of_parts rfl ⟨by decide, le_rfl, .inr rfl⟩ (nearest_of_value ?_)
  rw [Nat.cast_zero, zero_mul, applySign_zero]

/-! ### Products -/

theorem rounds_mul (hx : value? x = some a) (hy : value? y = some b) : Rounds (a * b) (x * y) := by
  change Rounds _ (.ofModel (.pack (UnpackedFloat.mul .binary64 x.toModel.unpack y.toModel.unpack)))
  obtain ⟨s, hu, rfl⟩ | ⟨s, m, e, hm, hu, hcanonical, rfl⟩ := unpack_cases hx <;>
    obtain ⟨t, hw, rfl⟩ | ⟨t, n, f, hn, hw, hcanonical', rfl⟩ := unpack_cases hy <;> rw [hu, hw]
  · rw [mul_zero]
    exact rounds_zero _
  · rw [zero_mul]
    exact rounds_zero _
  · rw [mul_zero]
    exact rounds_zero _
  · have hexact : (m * 2 ^ e) * (n * 2 ^ f) = ((m * n : ℕ) : ℚ) * 2 ^ (e + f) := by
      rw [zpow_add₀ two_ne_zero]
      push_cast
      ring
    rw [applySign_mul, hexact]
    refine rounds_roundWithAccuracy _ (describes_exact _) ?_
    -- A product with a factor of full length has full length.
    obtain ⟨-, -, hm' | rfl⟩ := hcanonical
    · exact .inr (hm'.trans (Nat.le_mul_of_pos_right m hn))
    · obtain ⟨-, -, hn' | rfl⟩ := hcanonical'
      · exact .inr (hn'.trans (Nat.le_mul_of_pos_left n hm))
      · exact .inl (by decide)

/-! ### Quotients -/

/-- What is left over is described by how `c` compares with a half. -/
theorem describes_inexact (m : ℕ) {c : ℚ} {o : Ordering} (hpos : 0 < c) (hlt : c < 1)
    (ho : o.Compares c (1 / 2)) : Describes (.ofMantissaAndAccuracy m (.inexact o)) (m + c) := by
  have hle : (m : ℚ) ≤ m + c := le_add_of_nonneg_right hpos.le
  have hlt : (m : ℚ) + c < m + 1 := add_lt_add_right hlt _
  have hne : (m : ℚ) + c ≠ m := by linarith
  cases o with
  | lt =>
    have hlow : (m : ℚ) + c < m + 1 / 2 := add_lt_add_right ho _
    exact ⟨hle, hlt, iff_of_false Bool.false_ne_true hlow.not_ge, iff_of_true rfl ⟨hne, hlow.ne⟩⟩
  | eq =>
    have hhalf : (m : ℚ) + c = m + 1 / 2 := congrArg _ ho
    exact ⟨hle, hlt, iff_of_true rfl hhalf.ge, iff_of_false Bool.false_ne_true fun h ↦ h.2 hhalf⟩
  | gt =>
    have hhigh : (m : ℚ) + 1 / 2 < m + c := add_lt_add_right ho _
    exact ⟨hle, hlt, iff_of_true rfl hhigh.le, iff_of_true rfl ⟨hne, hhigh.ne'⟩⟩

theorem describes_div (m : ℕ) {n : ℕ} (hn : 0 < n) :
    Describes (.ofMantissaAndAccuracy (m / n) (accuracyOfFraction (m % n) n)) ((m : ℚ) / n) := by
  have hpos : (0 : ℚ) < n := mod_cast hn
  have hsplit : (m : ℚ) / n = (m / n : ℕ) + (m % n : ℕ) / n := by
    rw [eq_comm, ← mul_right_inj' hpos.ne', mul_add, mul_div_cancel₀ _ hpos.ne',
      mul_div_cancel₀ _ hpos.ne']
    exact_mod_cast Nat.div_add_mod m n
  rw [hsplit, accuracyOfFraction]
  split_ifs with hzero
  · rw [hzero, Nat.cast_zero, zero_div, add_zero]
    exact describes_exact _
  · refine describes_inexact _ (div_pos (mod_cast Nat.pos_of_ne_zero hzero) hpos) ?_ ?_
    · rw [div_lt_one hpos]
      exact_mod_cast Nat.mod_lt m hn
    · have hmono : StrictMono fun k : ℕ ↦ (k : ℚ) / (2 * n) := fun k l hkl ↦ by
        dsimp only
        gcongr
      have hcompares := hmono.compares.2 ((compare_iff (2 * (m % n)) n).1 rfl)
      rwa [Nat.cast_mul, Nat.cast_two, mul_div_mul_left _ _ two_ne_zero, ← div_div,
        div_right_comm, div_self hpos.ne'] at hcompares

/-- The dividend of `divCore` is made so long that the quotient has full length or the least
exponent. -/
theorem exists_divCore {m n : ℕ} (hm : 0 < m) (hn : 0 < n) (e f : ℤ) :
    ∃ k : ℕ, divCore .binary64 m e n f =
        (m * 2 ^ k / n, e - f - k, accuracyOfFraction (m * 2 ^ k % n) n) ∧
      (e - f - k ≤ -1074 ∨ 2 ^ 52 ≤ m * 2 ^ k / n) := by
  have hhigh : n < 2 ^ (n.log2 + 1) := Nat.lt_log2_self
  obtain ⟨k, hk⟩ := Int.le.dest (min_le_left (e - f)
    (Format.binary64.targetExponent (totalExponent m e - totalExponent n f)))
  rw [← eq_sub_iff_add_eq] at hk
  refine ⟨k, ?_, ?_⟩
  · simp only [divCore, hk, sub_sub_cancel, Int.toNat_natCast, Nat.shiftLeft_eq]
  · rw [targetExponent_eq, totalExponent, totalExponent] at hk
    refine or_iff_not_imp_left.2 fun hne ↦ (Nat.le_div_iff_mul_le hn).2 ?_
    calc 2 ^ 52 * n ≤ 2 ^ 52 * 2 ^ (n.log2 + 1) := Nat.mul_le_mul_left _ hhigh.le
      _ = 2 ^ (52 + (n.log2 + 1)) := (pow_add ..).symm
      _ ≤ m * 2 ^ k := pow_le_mul_pow hm (by omega)

theorem rounds_div (hx : value? x = some a) (hy : value? y = some b) (hb : b ≠ 0) :
    Rounds (a / b) (x / y) := by
  change Rounds _ (.ofModel (.pack (UnpackedFloat.div .binary64 x.toModel.unpack y.toModel.unpack)))
  obtain ⟨t, -, rfl⟩ | ⟨t, n, f, hn, hw, -, rfl⟩ := unpack_cases hy
  · exact absurd rfl hb
  obtain ⟨s, hu, rfl⟩ | ⟨s, m, e, hm, hu, -, rfl⟩ := unpack_cases hx <;> rw [hu, hw]
  · rw [zero_div]
    exact rounds_zero _
  · obtain ⟨k, hcore, hlarge⟩ := exists_divCore hm hn e f
    have hexact : (m * 2 ^ e) / (n * 2 ^ f) = ((m * 2 ^ k : ℕ) : ℚ) / n * 2 ^ (e - f - k) := by
      rw [sub_right_comm, zpow_sub₀ two_ne_zero, ← mul_pow_mul_zpow m k e]
      ring
    rw [applySign_div, hexact, UnpackedFloat.div, hcore]
    exact rounds_roundWithAccuracy _ (describes_div _ hn) hlarge

/-! ### Sums and differences -/

theorem exists_decreaseExponent (m : ℕ) (e t : ℤ) : ∃ k : ℕ,
    decreaseExponent m e t = (m * 2 ^ k, e - k) ∧ (e ≤ t → k = 0) ∧ (t ≤ e → e - k = t) := by
  refine ⟨(e - t).toNat, ?_, by omega, by omega⟩
  rw [decreaseExponent, Nat.shiftLeft_eq]

theorem rounds_round (s : Sign) {m : ℕ} (hm : 0 < m) (e : ℤ) :
    Rounds (applySign s (m * 2 ^ e)) (.ofModel (.pack (UnpackedFloat.round .binary64 s m e))) := by
  obtain ⟨k, hk, hstay, hshift⟩ :=
    exists_decreaseExponent m e (Format.binary64.targetExponent (totalExponent m e))
  rw [UnpackedFloat.round, hk, ← mul_pow_mul_zpow m k e]
  rw [targetExponent_eq, totalExponent] at hstay hshift
  refine rounds_roundWithAccuracy s (describes_exact _) (or_iff_not_imp_left.2 fun hne ↦ ?_)
  exact pow_le_mul_pow hm (by omega)

theorem rounds_normalize (n e : ℤ) (s : Sign) :
    Rounds (n * 2 ^ e) (.ofModel (.pack (UnpackedFloat.normalize .binary64 n e s))) := by
  obtain ⟨t, ht⟩ := exists_apply n
  rcases Nat.eq_zero_or_pos n.natAbs with hzero | hpos
  · obtain rfl := Int.natAbs_eq_zero.1 hzero
    rw [Int.cast_zero, zero_mul]
    exact rounds_zero s
  · have hround := rounds_round t hpos e
    rw [← cast_apply, ← ht] at hround
    suffices h : UnpackedFloat.normalize .binary64 n e s =
        UnpackedFloat.round .binary64 t n.natAbs e by
      rwa [h]
    rw [UnpackedFloat.normalize]
    cases t with
    | positive =>
      have hn : n = n.natAbs := ht
      rw [compare_gt_iff_gt.2 (show 0 < n by omega), show n.toNat = n.natAbs by omega]
    | negative =>
      have hn : n = -n.natAbs := ht
      rw [compare_lt_iff_lt.2 (show n < 0 by omega), show (-n).toNat = n.natAbs by omega]

/-- The significands of a sum, brought to one exponent `t`. -/
theorem cast_apply_shift (s : Sign) {m k : ℕ} {e t : ℤ} (ht : e - k = t) :
    ((s.apply ((m * 2 ^ k : ℕ) : ℤ) : ℤ) : ℚ) * 2 ^ t = applySign s (m * 2 ^ e) := by
  rw [cast_apply, ← ht, mul_pow_mul_zpow]

theorem rounds_add (hx : value? x = some a) (hy : value? y = some b) : Rounds (a + b) (x + y) := by
  change Rounds _ (.ofModel (.pack (UnpackedFloat.add .binary64 x.toModel.unpack y.toModel.unpack)))
  obtain ⟨s, hu, rfl⟩ | ⟨s, m, e, hm, hu, hcanonical, rfl⟩ := unpack_cases hx <;>
    obtain ⟨t, hw, rfl⟩ | ⟨t, n, f, hn, hw, hcanonical', rfl⟩ := unpack_cases hy <;> rw [hu, hw]
  · rw [add_zero]
    cases s <;> cases t <;> exact rounds_zero _
  · rw [zero_add]
    exact rounds_of_parts rfl hcanonical' (nearest_of_value rfl)
  · rw [add_zero]
    exact rounds_of_parts rfl hcanonical (nearest_of_value rfl)
  · obtain ⟨k, hk, -, hshift⟩ := exists_decreaseExponent m e (min e f)
    obtain ⟨l, hl, -, hshift'⟩ := exists_decreaseExponent n f (min e f)
    rw [← cast_apply_shift s (hshift (min_le_left e f)),
      ← cast_apply_shift t (hshift' (min_le_right e f)), ← add_mul, ← Int.cast_add]
    simp only [UnpackedFloat.add, hk, hl]
    exact rounds_normalize _ _ _

theorem unpack_neg (x : Float) : (-x).toModel.unpack = x.toModel.unpack.neg := by
  change (Float.Model.pack x.toModel.unpack.neg).unpack = _
  have hparts := parts?_eq x
  cases hu : x.toModel.unpack with
  | notANumber => rfl
  | infinity s => exact unpack_pack_infinity _
  | zero s => exact unpack_pack_zero _
  | finite s m e hm =>
    rw [hu] at hparts
    obtain ⟨hcanonical, he⟩ := parts?_canonical hparts
    exact unpack_pack_finite _ hm hcanonical he

theorem value?_neg (hx : value? x = some a) : value? (-x) = some (-a) := by
  rw [value?_eq, unpack_neg]
  obtain ⟨s, hu, rfl⟩ | ⟨s, m, e, hm, hu, -, rfl⟩ := unpack_cases hx <;> rw [hu]
  · rw [neg_zero]
    exact congrArg some (Parts.value_zero _ _)
  · rw [← applySign_neg]
    exact congrArg some (Parts.value_eq _ m e)

theorem apply_neg (s : Sign) (n : ℤ) : (-s).apply n = -s.apply n := by
  cases s
  · exact (neg_neg n).symm
  · rfl

theorem unpacked_sub_eq (u w : UnpackedFloat) :
    UnpackedFloat.sub .binary64 u w = UnpackedFloat.add .binary64 u w.neg := by
  cases u with
  | finite =>
    cases w with
    | finite => simp only [UnpackedFloat.sub, UnpackedFloat.add, UnpackedFloat.neg, apply_neg,
        sub_eq_add_neg]
    | infinity | notANumber | zero => rfl
  | infinity | notANumber | zero => cases w <;> rfl

theorem sub_eq_add (x y : Float) : x - y = x + -y := by
  change Float.ofModel (.pack (UnpackedFloat.sub .binary64 x.toModel.unpack y.toModel.unpack)) =
    .ofModel (.pack (UnpackedFloat.add .binary64 x.toModel.unpack (-y).toModel.unpack))
  rw [unpack_neg, unpacked_sub_eq]

theorem rounds_sub (hx : value? x = some a) (hy : value? y = some b) : Rounds (a - b) (x - y) := by
  rw [sub_eq_add, sub_eq_add_neg]
  exact rounds_add hx (value?_neg hy)

theorem unpacked_neg_mul_neg (u w : UnpackedFloat) :
    UnpackedFloat.mul .binary64 u.neg w.neg = UnpackedFloat.mul .binary64 u w := by
  cases u with
  | notANumber => rfl
  | infinity s | zero s | finite s =>
    cases w with
    | notANumber => rfl
    | infinity t | zero t | finite t => cases s <;> cases t <;> rfl

theorem neg_mul_neg_eq (x y : Float) : -x * -y = x * y := by
  change Float.ofModel (.pack (UnpackedFloat.mul .binary64 (-x).toModel.unpack
    (-y).toModel.unpack)) = .ofModel (.pack (.mul .binary64 x.toModel.unpack y.toModel.unpack))
  rw [unpack_neg, unpack_neg, unpacked_neg_mul_neg]

theorem unpack_add_infinity (hx : value? x = some a) {s : Sign}
    (hy : y.toModel.unpack = .infinity s) : (x + y).toModel.unpack = .infinity s := by
  change (Float.Model.pack (.add .binary64 x.toModel.unpack y.toModel.unpack)).unpack = _
  obtain ⟨t, hu, -⟩ | ⟨t, m, e, hm, hu, -⟩ := unpack_cases hx <;> rw [hu, hy] <;>
    exact unpack_pack_infinity s

theorem unpack_sub_infinity (hx : value? x = some a) {s : Sign}
    (hy : y.toModel.unpack = .infinity s) : (x - y).toModel.unpack = .infinity (-s) := by
  rw [sub_eq_add]
  exact unpack_add_infinity hx ((unpack_neg y).trans (congrArg _ hy))

/-! ### Bounds around a number -/

theorem value?_zero : value? 0 = some 0 := by
  have h : parts? 0 = some ⟨false, 0, -1074⟩ := by decide
  rw [value?, h]
  exact congrArg some (Parts.value_zero _ _)

theorem Rounds.eq_zero (h : Rounds 0 x) (hx : value? x = some a) : a = 0 :=
  Option.some_inj.1 (hx.symm.trans (h.value?_eq value?_zero))

theorem value?_one : value? 1 = some 1 := by
  have h : parts? 1 = some ⟨false, 2 ^ 52, -52⟩ := by decide
  rw [value?, h]
  norm_num [Parts.value]

theorem nonneg_cases (h : 0 ≤ y) :
    (∃ b, value? y = some b ∧ 0 ≤ b) ∨ y.toModel.unpack = .infinity .positive := by
  cases hy : value? y with
  | some b => exact .inl ⟨b, rfl, (le_iff value?_zero hy).1 h⟩
  | none =>
    rw [le_iff_compare] at h
    obtain hu | ⟨s, hu⟩ := unpack_of_value?_eq_none hy
    · rw [hu] at h
      nomatch h
    · rw [hu, (compare_infinity value?_zero s).1] at h
      cases s with
      | positive => exact .inr hu
      | negative => nomatch h

theorem le_plus (hx : value? x = some a) (hy : 0 ≤ y) : x ≤ x + y := by
  obtain ⟨b, hb, hpos⟩ | hinfinity := nonneg_cases hy
  · exact ((rounds_add hx hb).sides x a hx).1 (le_add_of_nonneg_right hpos)
  · rw [le_iff_compare, unpack_add_infinity hx hinfinity, (compare_infinity hx _).1]
    rfl

theorem minus_le (hx : value? x = some a) (hy : 0 ≤ y) : x - y ≤ x := by
  obtain ⟨b, hb, hpos⟩ | hinfinity := nonneg_cases hy
  · exact ((rounds_sub hx hb).sides x a hx).2 (sub_le_self a hpos)
  · rw [le_iff_compare, unpack_sub_infinity hx hinfinity, (compare_infinity hx _).2]
    rfl

theorem value?_hundred : value? 100 = some 100 := by
  have h : parts? 100 = some ⟨false, 100 * 2 ^ 46, -46⟩ := by decide
  rw [value?, h]
  norm_num [Parts.value]

/-- The factors by which `x` percent change a number. -/
theorem exists_percent_factors (hx : 0 ≤ x) (hle : x ≤ 100) :
    (∃ b, value? (1 - x / 100) = some b ∧ b ≤ 1) ∧
      ∃ b, value? (1 + x / 100) = some b ∧ 1 ≤ b := by
  obtain ⟨a, ha, hpos, hhundred⟩ := exists_value_of_between value?_zero value?_hundred hx hle
  obtain ⟨r, hr, hnonneg, hone⟩ := (rounds_div ha value?_hundred (by norm_num)).exists_value
    value?_zero value?_one (by positivity) (div_le_one_of_le₀ hhundred (by norm_num))
  obtain ⟨b, hb, -, hb1⟩ := (rounds_sub value?_one hr).exists_value value?_zero value?_one
    (sub_nonneg.2 hone) (sub_le_self 1 hnonneg)
  obtain ⟨c, hc, hc1, -⟩ := (rounds_add value?_one hr).exists_value value?_one value?_hundred
    (le_add_of_nonneg_right hnonneg) ((add_le_add_right hone 1).trans (by norm_num))
  exact ⟨⟨b, hb, hb1⟩, c, hc, hc1⟩

/-- A factor `y` of at most one, or of at least one, moves a number to the side on which zero or the
infinity of its sign lies. -/
theorem mul_sides (hx : value? x = some a) (hy : value? y = some b) :
    (0 ≤ a → b ≤ 1 → x * y ≤ x) ∧ (0 ≤ a → 1 ≤ b → x ≤ x * y) ∧
      (a ≤ 0 → b ≤ 1 → x ≤ x * y) ∧ (a ≤ 0 → 1 ≤ b → x * y ≤ x) := by
  obtain ⟨hle, hge⟩ := (rounds_mul hx hy).sides x a hx
  exact ⟨fun ha hb ↦ hge (mul_le_of_le_one_right ha hb),
    fun ha hb ↦ hle (le_mul_of_one_le_right ha hb),
    fun ha hb ↦ hle (le_mul_of_le_one_right ha hb),
    fun ha hb ↦ hge (mul_le_of_one_le_right ha hb)⟩

/-! ### Integers -/

/-- Short significands `k` with an exponent in the range stand for floating-point numbers. -/
theorem exists_value {k g : ℤ} (hk : k.natAbs < 2 ^ 53) (hg : -1074 ≤ g) (hg' : g ≤ 971) :
    ∃ w, value? w = some ((k : ℚ) * 2 ^ g) := by
  obtain ⟨s, hs⟩ := exists_apply k
  rcases Nat.eq_zero_or_pos k.natAbs with hzero | hpos
  · obtain rfl := Int.natAbs_eq_zero.1 hzero
    rw [Int.cast_zero, zero_mul]
    exact ⟨0, value?_zero⟩
  · rw [hs, cast_apply]
    generalize k.natAbs = m at *
    have hhigh : m < 2 ^ (m.log2 + 1) := Nat.lt_log2_self
    have h53 : m.log2 < 53 := (Nat.log2_lt hpos.ne').2 hk
    -- The significand is made as long as it can be.
    let j := min (52 - m.log2) (g + 1074).toNat
    have hcanonical : Canonical (m * 2 ^ j) (g - j) := by
      refine ⟨?_, by omega, or_iff_not_imp_right.2 fun hne ↦ ?_⟩
      · calc m * 2 ^ j < 2 ^ (m.log2 + 1) * 2 ^ j := by gcongr
          _ = 2 ^ (m.log2 + 1 + j) := (pow_add ..).symm
          _ ≤ 2 ^ 53 := Nat.pow_le_pow_right two_pos (by omega)
      · exact pow_le_mul_pow hpos (by omega)
    have hlong : 0 < m * 2 ^ j := by positivity
    refine ⟨.ofModel (.pack (.finite s (m * 2 ^ j) (g - j) hlong)), ?_⟩
    rw [value?_pack rfl hcanonical (by dsimp only; omega), Parts.value_eq, mul_pow_mul_zpow]

theorem exists_value_intCast {n : ℤ} (hn : n.natAbs ≤ 2 ^ 53) : ∃ w, value? w = some (n : ℚ) := by
  rcases hn.eq_or_lt with heq | hlt
  · obtain ⟨k, rfl⟩ : (2 : ℤ) ∣ n := by omega
    obtain ⟨w, hw⟩ := exists_value (show k.natAbs < 2 ^ 53 by omega)
      (show (-1074 : ℤ) ≤ 1 by decide) (by decide)
    refine ⟨w, hw.trans (congrArg some ?_)⟩
    rw [zpow_one, Int.cast_mul, Int.cast_two, mul_comm]
  · obtain ⟨w, hw⟩ := exists_value hlt (show (-1074 : ℤ) ≤ 0 by decide) (by decide)
    rw [zpow_zero, mul_one] at hw
    exact ⟨w, hw⟩

theorem exists_value_two_pow {n : ℕ} (hn : n ≤ 971) : ∃ w, value? w = some ((2 : ℚ) ^ n) := by
  obtain ⟨w, hw⟩ := exists_value (show (1 : ℤ).natAbs < 2 ^ 53 by decide)
    (show (-1074 : ℤ) ≤ n by omega) (by omega)
  rw [Int.cast_one, one_mul, zpow_natCast] at hw
  exact ⟨w, hw⟩

/-- Integers up to `2 ^ 53` are kept exactly. -/
theorem Rounds.value?_intCast {n : ℤ} (h : Rounds n x) (hn : n.natAbs ≤ 2 ^ 53) :
    value? x = some (n : ℚ) := by
  obtain ⟨w, hw⟩ := exists_value_intCast hn
  exact h.value?_eq hw

theorem value?_toFloat {n : ℕ} (hn : n < 2 ^ 53) : value? n.toUInt64.toFloat = some (n : ℚ) := by
  have htoNat : n.toUInt64.toNat = n :=
    UInt64.toNat_ofNat_of_lt' (by simp only [UInt64.size]; omega)
  have hround : Rounds n.toUInt64.toNat n.toUInt64.toFloat := by
    have h := rounds_normalize n.toUInt64.toNat 0 .positive
    rwa [zpow_zero, mul_one, Int.cast_natCast] at h
  rw [htoNat, ← Int.cast_natCast] at hround
  exact hround.value?_intCast (by omega)

theorem rounds_ofNat (n : ℕ) : Rounds n (.ofNat n) := by
  change Rounds n (Float.ofScientific n false 0)
  rw [Float.ofScientific]
  split <;> rename_i hn
  · exact mul_one (n : ℚ) ▸ rounds_mul (value?_toFloat hn.1) value?_one
  · have hpos : 0 < n := by omega
    have hbits : Format.binary64.mantissaBits = 53 := rfl
    have hexact : (n : ℚ) = (n * 2 ^ 53 : ℕ) * 2 ^ (-53 : ℤ) := by
      rw [zpow_neg]
      push_cast
      field_simp
    change Rounds n (.ofModel (.pack (UnpackedFloat.ofScientific .binary64 n 0)))
    rw [UnpackedFloat.ofScientific, dif_neg hpos.ne', if_neg (by decide), if_neg (by simp),
      if_pos le_rfl, UnpackedFloat.mul]
    simp only [hbits, Int.toNat_zero, pow_zero, mul_one, add_zero, Nat.shiftLeft_eq]
    rw [hexact]
    exact rounds_roundWithAccuracy .positive (describes_exact _) (.inr (by omega))

theorem parts?_neg {p : Parts} (hx : parts? (-x) = some p) :
    parts? x = some ⟨!p.negative, p.significand, p.exponent⟩ := by
  rw [parts?_eq, unpack_neg] at hx
  rw [parts?_eq]
  cases hu : x.toModel.unpack with
  | infinity | notANumber =>
    rw [hu] at hx
    nomatch hx
  | zero s | finite s =>
    rw [hu] at hx
    cases hx
    cases s <;> rfl

theorem parts?_neg_eq {p : Parts} (hx : parts? x = some p) :
    parts? (-x) = some ⟨!p.negative, p.significand, p.exponent⟩ := by
  rw [parts?_eq] at hx
  rw [parts?_eq, unpack_neg]
  cases hu : x.toModel.unpack with
  | infinity | notANumber =>
    rw [hu] at hx
    nomatch hx
  | zero s | finite s =>
    rw [hu] at hx
    cases hx
    cases s <;> rfl

theorem Parts.value_flip (p : Parts) :
    p.value = -Parts.value ⟨!p.negative, p.significand, p.exponent⟩ := by
  obtain ⟨negative, m, e⟩ := p
  cases negative <;> simp [Parts.value]

theorem Rounds.neg {z c : ℚ} (h : Rounds z x) (hx : value? x = some c) : Rounds (-z) (-x) where
  nearest p hp := (h.nearest _ (parts?_neg hp)).neg p.value_flip rfl
  sides w b hw := by
    obtain ⟨hle, hge⟩ := h.sides (-w) (-b) (value?_neg hw)
    rw [le_iff (value?_neg hw) hx] at hle
    rw [le_iff hx (value?_neg hw)] at hge
    rw [le_iff hw (value?_neg hx), le_iff (value?_neg hx) hw]
    exact ⟨fun hbz ↦ le_neg.1 (hge (le_neg.1 hbz)), fun hzb ↦ neg_le.1 (hle (neg_le.1 hzb))⟩

theorem exists_value_ofNat {n : ℕ} (hn : n ≤ 2 ^ 63) : ∃ r, value? (.ofNat n) = some r := by
  obtain ⟨w, hw⟩ := exists_value_two_pow (show 63 ≤ 971 by decide)
  obtain ⟨r, hr, -⟩ := (rounds_ofNat n).exists_value value?_zero hw n.cast_nonneg (mod_cast hn)
  exact ⟨r, hr⟩

theorem exists_rounds_ofInteger (n : Int64) :
    ∃ r, value? (ofInteger n) = some r ∧ Rounds n.toInt (ofInteger n) := by
  have hlow := Int64.le_toInt n
  have hhigh := Int64.toInt_lt n
  change ∃ r, value? (Float.ofInt n.toInt) = some r ∧ Rounds n.toInt (Float.ofInt n.toInt)
  generalize n.toInt = k at *
  cases k with
  | ofNat m =>
    rw [Int.ofNat_eq_natCast] at hhigh
    obtain ⟨r, hr⟩ := exists_value_ofNat (show m ≤ 2 ^ 63 by omega)
    exact ⟨r, hr, rounds_ofNat m⟩
  | negSucc m =>
    obtain ⟨r, hr⟩ := exists_value_ofNat (show m + 1 ≤ 2 ^ 63 by omega)
    refine ⟨-r, value?_neg hr, ?_⟩
    rw [Int.cast_negSucc]
    exact (rounds_ofNat (m + 1)).neg hr

theorem value?_ofInteger {n : Int64} (hn : n.toInt.natAbs ≤ 2 ^ 53) :
    value? (ofInteger n) = some (n.toInt : ℚ) := by
  obtain ⟨-, -, hround⟩ := exists_rounds_ofInteger n
  exact hround.value?_intCast hn

theorem beq_ofInteger_self (n : Int64) : ofInteger n == ofInteger n := by
  obtain ⟨r, hr, -⟩ := exists_rounds_ofInteger n
  exact (beq_iff hr hr).2 rfl

/-- An integer below `2 ^ 53` shares its floating-point number with no other one. -/
theorem eq_of_beq_ofInteger {m n : Int64} (hm : m.toInt.natAbs < 2 ^ 53)
    (h : ofInteger m == ofInteger n) : m = n := by
  obtain ⟨r, hr, hround⟩ := exists_rounds_ofInteger n
  obtain rfl := (beq_iff (value?_ofInteger hm.le) hr).1 h
  rcases lt_trichotomy n.toInt m.toInt with hlt | heq | hgt
  · obtain ⟨w, hw⟩ := exists_value_intCast (show (m.toInt - 1).natAbs ≤ 2 ^ 53 by omega)
    have hle : n.toInt ≤ m.toInt - 1 := by omega
    have habove := (le_iff hr hw).1 ((hround.sides w _ hw).2 (mod_cast hle))
    have habove : m.toInt ≤ m.toInt - 1 := by exact_mod_cast habove
    omega
  · exact Int64.toInt_inj.1 heq.symm
  · obtain ⟨w, hw⟩ := exists_value_intCast (show (m.toInt + 1).natAbs ≤ 2 ^ 53 by omega)
    have hle : m.toInt + 1 ≤ n.toInt := by omega
    have hbelow := (le_iff hw hr).1 ((hround.sides w _ hw).1 (mod_cast hle))
    have hbelow : m.toInt + 1 ≤ m.toInt := by exact_mod_cast hbelow
    omega

end AssessmentItem.Binary64
