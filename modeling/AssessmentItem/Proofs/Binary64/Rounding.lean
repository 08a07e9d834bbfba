import AssessmentItem.Proofs.Binary64.Values

/-!
# Rounding to nearest

Operations on floating-point numbers round an exact result: the significand is shifted until it has
its full length or the least exponent, what falls off decides whether it grows by one, and packing
turns what is too great into an infinity.  The rounded number is the nearest one, and of two nearest
the one with the even significand.  It lies on the same side of every finite floating-point number
as the exact result, so an exact result that is itself the value of a floating-point number is not
changed.

## Main definitions

* `Binary64.Nearest` : the significand and the exponent nearest to an exact number.
* `Binary64.Rounds` : the floating-point number that an exact one is rounded to.
* `Binary64.Describes` : a significand and two bits that stand for what is left of a number.

## Main results

* `Binary64.nearest_of_neighbour` : the nearer neighbour of a number is the nearest of all.
* `Binary64.Describes.shiftRight` : shifting keeps what the bits stand for.
* `Binary64.rounds_roundWithAccuracy` : a number that is described is rounded to the nearest one.
* `Binary64.Rounds.exists_value`, `Binary64.Rounds.value?_eq` : results that are finite, and exact
  ones.
-/

namespace AssessmentItem.Binary64

open Float.Model Float.Model.UnpackedFloat

/-! ### The nearest number -/

/-- The numbers that significands and exponents spell, up to any size. -/
def OnGrid (b : ℚ) : Prop := ∃ k g : ℤ, k.natAbs < 2 ^ 53 ∧ -1074 ≤ g ∧ b = k * 2 ^ g

/-- No number is nearer to `z` than the value of `p`, and if another one is as near the significand
of `p` is even. -/
structure Nearest (z : ℚ) (p : Parts) : Prop where
  le : ∀ b, OnGrid b → |z - p.value| ≤ |z - b|
  even : ∀ b, OnGrid b → b ≠ p.value → |z - b| = |z - p.value| → Even p.significand

theorem nearest_self (p : Parts) : Nearest p.value p where
  le b _ := by
    rw [sub_self, abs_zero]
    exact abs_nonneg _
  even b _ hne heq := by
    rw [sub_self, abs_zero, abs_eq_zero, sub_eq_zero] at heq
    exact absurd heq.symm hne

/-- The `Nearest` number lies on the same side of all the others as the exact one. -/
theorem Nearest.sides {z b : ℚ} {p : Parts} (h : Nearest z p) (hb : OnGrid b) :
    (b ≤ z → b ≤ p.value) ∧ (z ≤ b → p.value ≤ b) := by
  have hle := h.le b hb
  constructor
  · intro hbz
    by_contra hlt
    rw [abs_of_nonneg (sub_nonneg.2 hbz), abs_of_nonneg (by linarith)] at hle
    linarith
  · intro hzb
    by_contra hlt
    rw [abs_of_nonpos (sub_nonpos.2 hzb), abs_of_nonpos (by linarith)] at hle
    linarith

theorem OnGrid.neg {b : ℚ} (h : OnGrid b) : OnGrid (-b) := by
  obtain ⟨k, g, hk, hg, rfl⟩ := h
  refine ⟨-k, g, by rwa [Int.natAbs_neg], hg, ?_⟩
  push_cast
  ring

theorem Nearest.neg {z : ℚ} {p q : Parts} (h : Nearest z p) (hvalue : q.value = -p.value)
    (hsignificand : q.significand = p.significand) : Nearest (-z) q := by
  have hflip (b : ℚ) : |-z - b| = |z - -b| := by
    rw [← abs_neg, neg_sub, sub_neg_eq_add, sub_neg_eq_add, add_comm]
  constructor
  · intro b hb
    rw [hflip, hflip, hvalue, neg_neg]
    exact h.le (-b) hb.neg
  · intro b hb hne heq
    rw [hflip, hflip, hvalue, neg_neg] at heq
    rw [hsignificand]
    refine h.even (-b) hb.neg (fun hneg ↦ hne ?_) heq
    rw [hvalue, ← hneg, neg_neg]

theorem Parts.value_abs (p : Parts) : |p.value| = p.significand * 2 ^ p.exponent := by
  obtain ⟨negative, m, e⟩ := p
  have hpos : (0 : ℚ) ≤ m * 2 ^ e := by positivity
  cases negative <;> simp [Parts.value, abs_mul]

/-- The `Nearest` number without its sign is that of the exact number without its sign. -/
theorem Nearest.abs {z : ℚ} {p : Parts} (h : Nearest z p) :
    Nearest |z| ⟨false, p.significand, p.exponent⟩ := by
  have hzero : OnGrid 0 := ⟨0, 0, by decide, by decide, by simp⟩
  have hvalue : Parts.value ⟨false, p.significand, p.exponent⟩ = |p.value| := by
    rw [Parts.value_positive, p.value_abs]
  rcases le_total 0 z with hz | hz
  · have hp : |p.value| = p.value := abs_of_nonneg ((h.sides hzero).1 hz)
    rw [abs_of_nonneg hz]
    exact ⟨fun b hb ↦ by rw [hvalue, hp]; exact h.le b hb,
      fun b hb hne heq ↦ h.even b hb (hp ▸ hvalue ▸ hne) (by rw [heq, hvalue, hp])⟩
  · rw [abs_of_nonpos hz]
    refine h.neg ?_ rfl
    rw [hvalue, abs_of_nonpos ((h.sides hzero).2 hz)]

theorem Nearest.applySign {z : ℚ} {n : ℕ} {f : ℤ} (h : Nearest z ⟨false, n, f⟩) (s : Sign) :
    Nearest (applySign s z) ⟨isNegative s, n, f⟩ := by
  cases s with
  | positive => exact h
  | negative =>
    refine h.neg ?_ rfl
    rw [Parts.value_eq]
    exact congrArg Neg.neg (Parts.value_eq .positive n f).symm

/-- Nothing lies between `q`, which is of full length or has the least exponent, and the next
significand: those with the exponent `t`, or a greater one, are multiples of its unit, and all
others are below it. -/
theorem OnGrid.le_or_le {b : ℚ} (hb : OnGrid b) {q : ℕ} {t : ℤ} (hq : 2 ^ 52 ≤ q ∨ t = -1074) :
    b ≤ q * 2 ^ t ∨ (q + 1) * 2 ^ t ≤ b := by
  obtain ⟨k, g, hk, hg, rfl⟩ := hb
  rcases le_or_gt t g with htg | hgt
  · obtain ⟨d, hd⟩ := Int.le.dest htg
    have hmultiple : (k : ℚ) * 2 ^ g = (k * 2 ^ d : ℤ) * 2 ^ t := by
      rw [← hd, zpow_add₀ two_ne_zero, zpow_natCast]
      push_cast
      ring
    rw [hmultiple]
    generalize k * 2 ^ d = n
    rcases le_or_gt n q with hnq | hqn
    · refine .inl ?_
      gcongr
      exact_mod_cast hnq
    · refine .inr ?_
      gcongr
      exact_mod_cast hqn
  · have hfull : 2 ^ 52 ≤ q := hq.resolve_right (by omega)
    refine .inl (le_of_lt (lt_of_le_of_lt ?_ (mul_zpow_lt hk hfull hgt)))
    gcongr
    rw [Nat.cast_natAbs]
    exact mod_cast le_abs_self k

theorem onGrid_of_le {k g : ℤ} (hk : k.natAbs ≤ 2 ^ 53) (hg : -1074 ≤ g) : OnGrid (k * 2 ^ g) := by
  rcases hk.eq_or_lt with heq | hlt
  · obtain ⟨j, rfl⟩ : (2 : ℤ) ∣ k := by omega
    refine ⟨j, g + 1, by omega, by omega, ?_⟩
    rw [zpow_add_one₀ two_ne_zero]
    push_cast
    ring
  · exact ⟨k, g, hlt, hg, rfl⟩

/-- What does not lie between the neighbours `q` and `q + 1` is not nearer than the nearer of these,
and as near only if a half is between. -/
theorem nearer_neighbour {u v : ℚ} {q r : ℕ} (hle : q ≤ u) (hlt : u ≤ q + 1)
    (hr : |u - r| ≤ 1 / 2) (hv : v ≤ q ∨ q + 1 ≤ v) :
    |u - r| ≤ |u - v| ∧ (|u - v| = |u - r| → v ≠ r → |u - r| = 1 / 2) := by
  have hneighbour : r = q ∨ r = q + 1 := by
    obtain ⟨hlow, hhigh⟩ := abs_le.1 hr
    have hlow : (q : ℚ) < r + 1 := by linarith
    have hhigh : (r : ℚ) < (q + 1 : ℕ) + 1 := by
      push_cast
      linarith
    norm_cast at hlow hhigh
    omega
  obtain rfl | rfl := hneighbour
  · rw [abs_of_nonneg (sub_nonneg.2 hle)] at hr ⊢
    obtain hv | hv := hv
    · rw [abs_of_nonneg (by linarith)]
      exact ⟨by linarith, fun heq hne ↦ absurd (by linarith) hne⟩
    · rw [abs_of_nonpos (by linarith)]
      exact ⟨by linarith, fun heq _ ↦ by linarith⟩
  · push_cast at hr ⊢
    rw [abs_of_nonpos (sub_nonpos.2 hlt)] at hr ⊢
    obtain hv | hv := hv
    · rw [abs_of_nonneg (by linarith)]
      exact ⟨by linarith, fun heq _ ↦ by linarith⟩
    · rw [abs_of_nonpos (by linarith)]
      exact ⟨by linarith, fun heq hne ↦ absurd (by linarith) hne⟩

/-- The nearer of the two significands around a number is the `Nearest` one of all. -/
theorem nearest_of_neighbour {q r : ℕ} {t : ℤ} {u : ℚ} {p : Parts} (hq : 2 ^ 52 ≤ q ∨ t = -1074)
    (hle : q ≤ u) (hlt : u ≤ q + 1) (hr : |u - r| ≤ 1 / 2) (heven : |u - r| = 1 / 2 → Even r)
    (hvalue : p.value = r * 2 ^ t) (hp : Even r → Even p.significand) : Nearest (u * 2 ^ t) p := by
  have hpos : (0 : ℚ) < 2 ^ t := zpow_pos two_pos t
  have hscale (v : ℚ) : |u * 2 ^ t - v * 2 ^ t| = |u - v| * 2 ^ t := by
    rw [← sub_mul, abs_mul, abs_of_pos hpos]
  have hnear {v : ℚ} (hv : OnGrid (v * 2 ^ t)) :
      |u - r| ≤ |u - v| ∧ (|u - v| = |u - r| → v ≠ r → |u - r| = 1 / 2) :=
    nearer_neighbour hle hlt hr ((hv.le_or_le hq).imp (le_of_mul_le_mul_right · hpos)
      (le_of_mul_le_mul_right · hpos))
  constructor
  · intro b hb
    rw [← div_mul_cancel₀ b hpos.ne'] at hb ⊢
    rw [hvalue, hscale, hscale]
    exact mul_le_mul_of_nonneg_right (hnear hb).1 hpos.le
  · intro b hb hne heq
    rw [← div_mul_cancel₀ b hpos.ne'] at hb hne heq
    rw [hvalue] at hne
    rw [hvalue, hscale, hscale] at heq
    exact hp (heven ((hnear hb).2 (mul_right_cancel₀ hpos.ne' heq) (hne ∘ congrArg (· * 2 ^ t))))

/-- The `Nearest` number is wrong by half a unit of the last of 53 bits at most. -/
theorem Nearest.abs_sub_le {z : ℚ} {p : Parts} (h : Nearest z p) (hz : 2 ^ (-1022 : ℤ) ≤ |z|) :
    |z - p.value| ≤ |z| / 2 ^ 53 := by
  have hpos : 0 < |z| := lt_of_lt_of_le (by positivity) hz
  have hlow := Int.zpow_log_le_self (b := 2) (by decide) hpos
  have hhigh := Int.lt_zpow_succ_log_self (b := 2) (by decide) |z|
  have hlog := (Int.zpow_le_iff_le_log (b := 2) (by decide) hpos).1 (mod_cast hz)
  rw [Nat.cast_ofNat] at hlow hhigh
  generalize Int.log 2 |z| = l at hlow hhigh hlog
  -- The unit of the last place is `2 ^ t`.
  obtain ⟨t, rfl⟩ : ∃ t, l = 52 + t := ⟨l - 52, by ring⟩
  have hunit : (0 : ℚ) < 2 ^ t := zpow_pos two_pos t
  obtain ⟨u, rfl⟩ : ∃ u, z = u * 2 ^ t := ⟨z / 2 ^ t, (div_mul_cancel₀ z hunit.ne').symm⟩
  rw [abs_mul, abs_of_pos hunit] at *
  rw [zpow_add₀ two_ne_zero, mul_le_mul_iff_left₀ hunit] at hlow
  rw [add_right_comm, zpow_add₀ two_ne_zero, mul_lt_mul_iff_left₀ hunit] at hhigh
  have hround := abs_sub_round u
  have hgrid : OnGrid (round u * 2 ^ t) := by
    refine onGrid_of_le ?_ (by omega)
    obtain ⟨hround₁, hround₂⟩ := abs_le.1 hround
    obtain ⟨hhigh₁, hhigh₂⟩ := abs_lt.1 hhigh
    norm_num at hhigh₁ hhigh₂
    have hupper : (round u : ℚ) < 9007199254740992 + 1 := by linarith
    have hlower : (-9007199254740992 - 1 : ℚ) < round u := by linarith
    norm_cast at hupper hlower
    omega
  refine (h.le _ hgrid).trans ?_
  rw [← sub_mul, abs_mul, abs_of_pos hunit, mul_div_right_comm]
  gcongr
  norm_num at hlow
  linarith

/-! ### Shifting -/

theorem shiftRight_succ (em : ExtendedMantissa) (k : ℕ) :
    em >>> (k + 1) = (em >>> k).shiftRightOne := rfl

theorem mantissa_shiftRight (em : ExtendedMantissa) (k : ℕ) :
    (em >>> k).mantissa = em.mantissa / 2 ^ k := by
  induction k with
  | zero => exact (Nat.div_one _).symm
  | succ k ih =>
    rw [shiftRight_succ, pow_succ, ← Nat.div_div_eq_div_mul, ← ih]
    rfl

/-- The number `u` lies at `em.mantissa`, or above it and below the next one. `roundBit` says
whether what is left over is a half or more, `stickyBit` whether it is anything but zero and a
half. -/
structure Describes (em : ExtendedMantissa) (u : ℚ) : Prop where
  le : em.mantissa ≤ u
  lt : u < em.mantissa + 1
  roundBit : em.roundBit = true ↔ em.mantissa + 1 / 2 ≤ u
  stickyBit : em.stickyBit = true ↔ u ≠ em.mantissa ∧ u ≠ em.mantissa + 1 / 2

/-- What is left over when a half of `u` is described comes from the last bit of `em.mantissa` and
from what is left over of `u`. -/
theorem Describes.shiftRightOne {em : ExtendedMantissa} {u : ℚ} (h : Describes em u) :
    Describes em.shiftRightOne (u / 2) := by
  obtain ⟨m, r, s⟩ := em
  obtain ⟨hle, hlt, hround, hsticky⟩ := h
  dsimp only at hle hlt hround hsticky
  have hrest : (r || s) = true ↔ u ≠ m := by
    rw [Bool.or_eq_true, hround, hsticky]
    constructor
    · rintro (h | h)
      · exact (by linarith : (m : ℚ) < u).ne'
      · exact h.1
    · intro hne
      by_cases h : m + 1 / 2 ≤ u
      · exact .inl h
      · exact .inr ⟨hne, fun heq ↦ h heq.ge⟩
  obtain ⟨k, rfl | rfl⟩ := Nat.even_or_odd' m
  · push_cast at hle hlt hrest
    have hquotient : 2 * k / 2 = k := by omega
    have hodd : (2 * k % 2 != 0) = false := by simp
    refine ⟨?_, ?_, ?_, ?_⟩ <;> simp only [ExtendedMantissa.shiftRightOne, hquotient, hodd]
    · linarith
    · linarith
    · exact iff_of_false Bool.false_ne_true (by linarith)
    · rw [hrest]
      constructor
      · exact fun hne ↦ ⟨fun heq ↦ hne (by linarith), fun heq ↦ by linarith⟩
      · exact fun hne heq ↦ hne.1 (by linarith)
  · push_cast at hle hlt hrest
    have hquotient : (2 * k + 1) / 2 = k := by omega
    have hodd : ((2 * k + 1) % 2 != 0) = true := by simp [Nat.add_mod]
    refine ⟨?_, ?_, ?_, ?_⟩ <;> simp only [ExtendedMantissa.shiftRightOne, hquotient, hodd]
    · linarith
    · linarith
    · exact iff_of_true trivial (by linarith)
    · rw [hrest]
      constructor
      · exact fun hne ↦ ⟨fun heq ↦ by linarith, fun heq ↦ hne (by linarith)⟩
      · exact fun hne heq ↦ hne.2 (by linarith)

theorem Describes.shiftRight {em : ExtendedMantissa} {u : ℚ} (h : Describes em u) (k : ℕ) :
    Describes (em >>> k) (u / 2 ^ k) := by
  induction k with
  | zero => rwa [pow_zero, div_one]
  | succ k ih =>
    rw [shiftRight_succ, pow_succ, ← div_div]
    exact ih.shiftRightOne

/-- The `roundedMantissa` is greater by one if more than a half is left over, and also if a half is
and the significand is odd. -/
theorem Describes.roundedMantissa {em : ExtendedMantissa} {u : ℚ} (h : Describes em u) :
    |u - em.roundedMantissa| ≤ 1 / 2 ∧
      (|u - em.roundedMantissa| = 1 / 2 → Even em.roundedMantissa) := by
  obtain ⟨m, r, s⟩ := em
  obtain ⟨hle, hlt, hround, hsticky⟩ := h
  dsimp only at hle hlt hround hsticky
  cases r with
  | false =>
    have hlow : u < m + 1 / 2 := not_le.1 (hround.not.1 Bool.false_ne_true)
    have hrounded : (ExtendedMantissa.mk m false s).roundedMantissa = m := by cases s <;> rfl
    rw [hrounded, abs_of_nonneg (sub_nonneg.2 hle)]
    exact ⟨by linarith, fun heq ↦ by linarith⟩
  | true =>
    have hhigh : m + 1 / 2 ≤ u := hround.1 rfl
    cases s with
    | true =>
      have hne := (hsticky.1 rfl).2
      have hrounded : (ExtendedMantissa.mk m true true).roundedMantissa = m + 1 := rfl
      rw [hrounded, Nat.cast_add_one, abs_of_nonpos (by linarith)]
      exact ⟨by linarith, fun heq ↦ absurd (by linarith) hne⟩
    | false =>
      have hhalf : u = m + 1 / 2 := by
        by_contra hne
        exact absurd (hsticky.2 ⟨by linarith, hne⟩) Bool.false_ne_true
      have hrounded : (ExtendedMantissa.mk m true false).roundedMantissa = m + m % 2 := rfl
      rw [hrounded, hhalf]
      obtain hparity | hparity := Nat.mod_two_eq_zero_or_one m <;> rw [hparity]
      · rw [add_zero, add_sub_cancel_left, abs_of_pos one_half_pos]
        exact ⟨le_rfl, fun _ ↦ Nat.even_iff.2 hparity⟩
      · rw [Nat.cast_add_one, add_sub_add_left_eq_sub, abs_of_neg (by norm_num)]
        exact ⟨by norm_num, fun _ ↦ (Nat.odd_iff.2 hparity).add_one⟩

theorem roundedMantissa_eq_or (em : ExtendedMantissa) :
    em.roundedMantissa = em.mantissa ∨ em.roundedMantissa = em.mantissa + 1 := by
  obtain ⟨m, _ | _, _ | _⟩ := em
  · exact .inl rfl
  · exact .inl rfl
  · change m + m % 2 = m ∨ m + m % 2 = m + 1
    omega
  · exact .inr rfl

theorem targetExponent_eq (t : ℤ) : Format.binary64.targetExponent t = max (t - 53) (-1074) := rfl

theorem targetExponent_of_canonical {m : ℕ} {e : ℤ} (h : Canonical m e) :
    Format.binary64.targetExponent (totalExponent m e) = e := by
  rw [targetExponent_eq, totalExponent]
  obtain ⟨hlt, hle, hfull⟩ := h
  rcases Nat.eq_zero_or_pos m with rfl | hpos
  · rw [Nat.log2_zero]
    omega
  · have h52 : 52 ≤ m.log2 ↔ 2 ^ 52 ≤ m := Nat.le_log2 hpos.ne'
    have h53 : m.log2 < 53 ↔ m < 2 ^ 53 := Nat.log2_lt hpos.ne'
    omega

/-- A significand that is long enough is shifted into `Canonical` form. -/
theorem exists_shift {m : ℕ} {e : ℤ} (he : e ≤ -1074 ∨ 2 ^ 52 ≤ m) :
    ∃ k : ℕ, Format.binary64.targetExponent (totalExponent m e) = e + k ∧
      Canonical (m / 2 ^ k) (e + k) := by
  rw [targetExponent_eq, totalExponent]
  rcases Nat.eq_zero_or_pos m with rfl | hpos
  · refine ⟨(-1074 - e).toNat, ?_, ?_⟩
    · rw [Nat.log2_zero]
      omega
    · rw [Nat.zero_div]
      exact ⟨by omega, by omega, by omega⟩
  · have h52 : 52 ≤ m.log2 ↔ 2 ^ 52 ≤ m := Nat.le_log2 hpos.ne'
    have hlow : 2 ^ m.log2 ≤ m := Nat.log2_self_le hpos.ne'
    have hhigh : m < 2 ^ (m.log2 + 1) := Nat.lt_log2_self
    have hle : e ≤ max (m.log2 + 1 + e - 53) (-1074) := by omega
    obtain ⟨k, hk⟩ := Int.le.dest hle
    refine ⟨k, hk.symm, ?_, by omega, ?_⟩
    · refine Nat.div_lt_of_lt_mul (hhigh.trans_le ?_)
      rw [← pow_add]
      exact Nat.pow_le_pow_right two_pos (by omega)
    · refine or_iff_not_imp_right.2 fun hne ↦ (Nat.le_div_iff_mul_le (by positivity)).2 ?_
      rw [← pow_add, show 52 + k = m.log2 by omega]
      exact hlow

/-! ### Rounding -/

theorem describes_exact (m : ℕ) : Describes (.ofMantissaAndAccuracy m .exact) m where
  le := le_rfl
  lt := lt_add_one _
  roundBit := iff_of_false Bool.false_ne_true (by simp [ExtendedMantissa.ofMantissaAndAccuracy])
  stickyBit := iff_of_false Bool.false_ne_true fun h ↦ h.1 rfl

theorem mantissa_ofMantissaAndAccuracy (m : ℕ) (acc : Accuracy) :
    (ExtendedMantissa.ofMantissaAndAccuracy m acc).mantissa = m := by
  cases acc with
  | exact => rfl
  | inexact o => cases o <;> rfl

/-- A significand that has grown from `q` is in `Canonical` form, or is once it is shifted by
one. -/
theorem exists_canonical {q r : ℕ} {t : ℤ} (hq : Canonical q t) (hr : r = q ∨ r = q + 1) :
    ∃ (n : ℕ) (f : ℤ) (em : ExtendedMantissa), Canonical n f ∧ (n : ℚ) * 2 ^ f = r * 2 ^ t ∧
      (Even r → Even n) ∧ shiftToTargetExponent .binary64 r t .exact = (em, f) ∧
      em.mantissa = n := by
  obtain ⟨hlt, hle, hfull⟩ := hq
  by_cases hshort : r < 2 ^ 53
  · have hcanonical : Canonical r t := ⟨hshort, hle, by omega⟩
    refine ⟨r, t, ⟨r, false, false⟩, hcanonical, rfl, id, ?_, rfl⟩
    rw [shiftToTargetExponent, targetExponent_of_canonical hcanonical, shiftToExponent, sub_self]
    exact congrArg _ (add_zero t)
  · obtain rfl : r = 2 ^ 53 := by omega
    have htarget : Format.binary64.targetExponent (totalExponent (2 ^ 53) t) = t + 1 := by
      rw [targetExponent_eq, totalExponent, Nat.log2_two_pow]
      omega
    refine ⟨2 ^ 52, t + 1, ⟨2 ^ 52, false, false⟩, ⟨by decide, by omega, .inl le_rfl⟩, ?_,
      fun _ ↦ by decide, ?_, rfl⟩
    · rw [zpow_add_one₀ two_ne_zero]
      push_cast
      ring
    · rw [shiftToTargetExponent, htarget, shiftToExponent, add_sub_cancel_left]
      rfl

theorem exists_parts_roundWithAccuracy (s : Sign) {u : ℚ} {m : ℕ} {e : ℤ} {acc : Accuracy}
    (hu : Describes (.ofMantissaAndAccuracy m acc) u) (he : e ≤ -1074 ∨ 2 ^ 52 ≤ m) :
    ∃ n f, Canonical n f ∧ Nearest (u * 2 ^ e) ⟨false, n, f⟩ ∧
      unpackedParts? (roundWithAccuracy .binary64 s m e acc) = some ⟨isNegative s, n, f⟩ := by
  obtain ⟨k, hk, hcanonical⟩ := exists_shift he
  let em := ExtendedMantissa.ofMantissaAndAccuracy m acc >>> k
  have hem : shiftToTargetExponent .binary64 m e acc = (em, e + k) := by
    rw [shiftToTargetExponent, hk]
    simp only [shiftToExponent, add_sub_cancel_left, Int.toNat_natCast]
    rfl
  have hmantissa : em.mantissa = m / 2 ^ k := by
    rw [mantissa_shiftRight, mantissa_ofMantissaAndAccuracy]
  rw [← hmantissa] at hcanonical
  have hshifted : Describes em (u / 2 ^ k) := hu.shiftRight k
  obtain ⟨hround, heven⟩ := hshifted.roundedMantissa
  obtain ⟨n, f, em', hn, hvalue, hnEven, hshift, hfinal⟩ :=
    exists_canonical hcanonical (roundedMantissa_eq_or em)
  have hscale : u * 2 ^ e = u / 2 ^ k * 2 ^ (e + k) := by
    rw [zpow_add₀ two_ne_zero, zpow_natCast]
    field_simp
  refine ⟨n, f, hn, ?_, ?_⟩
  · rw [hscale]
    exact nearest_of_neighbour hcanonical.full hshifted.le hshifted.lt.le hround heven
      ((Parts.value_eq .positive n f).trans hvalue) hnEven
  · simp only [roundWithAccuracy, hem, hshift, hfinal]
    split_ifs with hzero
    · obtain ⟨-, -, hfull⟩ := hn
      rw [hzero, show f = -1074 by omega]
      rfl
    · rfl

/-! ### Packing -/

/-- The floating-point number `x` is the one nearest to `z`, or an infinity beyond all of them, and
lies on the same side of every finite one. -/
structure Rounds (z : ℚ) (x : Float) : Prop where
  nearest : ∀ p, parts? x = some p → Nearest z p
  sides : ∀ w b, value? w = some b → (b ≤ z → w ≤ x) ∧ (z ≤ b → x ≤ w)

theorem exists_signed (p : Parts) :
    ∃ k : ℤ, k.natAbs = p.significand ∧ p.value = k * 2 ^ p.exponent := by
  obtain ⟨negative, m, e⟩ := p
  cases negative with
  | false => exact ⟨m, rfl, Parts.value_eq .positive m e⟩
  | true =>
    refine ⟨-m, Int.natAbs_neg m, (Parts.value_eq .negative m e).trans ?_⟩
    rw [applySign, Int.cast_neg, neg_mul]
    rfl

theorem onGrid_of_value? {w : Float} {b : ℚ} (h : value? w = some b) : OnGrid b := by
  obtain ⟨p, hp, rfl⟩ := Option.map_eq_some_iff.1 h
  obtain ⟨⟨hlt, hle, -⟩, -⟩ := parts?_canonical hp
  obtain ⟨k, hk, hvalue⟩ := exists_signed p
  exact ⟨k, _, hk ▸ hlt, hle, hvalue⟩

theorem abs_lt_of_value? {w : Float} {b : ℚ} (h : value? w = some b) {n : ℕ} {f : ℤ}
    (hn : Canonical n f) (hf : 971 < f) : |b| < n * 2 ^ f := by
  obtain ⟨p, hp, rfl⟩ := Option.map_eq_some_iff.1 h
  obtain ⟨⟨hlt, -, -⟩, he⟩ := parts?_canonical hp
  obtain ⟨k, hk, hvalue⟩ := exists_signed p
  have hpos : (0 : ℚ) < 2 ^ p.exponent := zpow_pos two_pos _
  rw [hvalue, abs_mul, abs_of_pos hpos, ← Int.cast_abs, Int.abs_eq_natAbs, hk, Int.cast_natCast]
  exact mul_zpow_lt hlt (hn.full.resolve_right (by omega)) (by omega)

theorem rounds_of_parts {u : UnpackedFloat} {s : Sign} {n : ℕ} {f : ℤ} {z : ℚ}
    (hu : unpackedParts? u = some ⟨isNegative s, n, f⟩) (hn : Canonical n f)
    (hz : Nearest z ⟨isNegative s, n, f⟩) : Rounds z (.ofModel (.pack u)) := by
  have hparts (x : Float) : parts? x = unpackedParts? x.toModel.unpack := parts?_eq x
  rcases le_or_gt f 971 with hf | hf
  · have hunpack : (Float.ofModel (.pack u)).toModel.unpack = u := unpack_pack hu hn hf
    refine ⟨fun p hp ↦ ?_, fun w b hw ↦ ?_⟩
    · rw [hparts, hunpack, hu] at hp
      exact Option.some_inj.1 hp ▸ hz
    · have hvalue := value?_pack hu hn hf
      rw [le_iff hw hvalue, le_iff hvalue hw]
      exact hz.sides (onGrid_of_value? hw)
  · have hinfinity : (Float.ofModel (.pack u)).toModel.unpack = .infinity s :=
      unpack_pack_overflow hu hf
    refine ⟨fun p hp ↦ ?_, fun w b hw ↦ ?_⟩
    · rw [hparts, hinfinity] at hp
      nomatch hp
    · obtain ⟨hle, hge⟩ := hz.sides (onGrid_of_value? hw)
      rw [Parts.value_eq] at hle hge
      obtain ⟨hlow, hhigh⟩ := abs_lt.1 (abs_lt_of_value? hw hn hf)
      rw [le_iff_compare, le_iff_compare, hinfinity, (compare_infinity hw s).1,
        (compare_infinity hw s).2]
      cases s with
      | positive => exact ⟨fun _ ↦ rfl, fun hzb ↦ absurd hhigh (hge hzb).not_gt⟩
      | negative => exact ⟨fun hbz ↦ absurd hlow (hle hbz).not_gt, fun _ ↦ rfl⟩

theorem rounds_roundWithAccuracy (s : Sign) {u : ℚ} {m : ℕ} {e : ℤ} {acc : Accuracy}
    (hu : Describes (.ofMantissaAndAccuracy m acc) u) (he : e ≤ -1074 ∨ 2 ^ 52 ≤ m) :
    Rounds (applySign s (u * 2 ^ e))
      (.ofModel (.pack (roundWithAccuracy .binary64 s m e acc))) := by
  obtain ⟨n, f, hn, hnearest, hparts⟩ := exists_parts_roundWithAccuracy s hu he
  exact rounds_of_parts hparts hn (hnearest.applySign s)

/-- What lies between the values of finite numbers `v` and `w` is rounded to a finite number. -/
theorem Rounds.exists_value {z c d : ℚ} {x v w : Float} (h : Rounds z x) (hv : value? v = some c)
    (hw : value? w = some d) (hcz : c ≤ z) (hzd : z ≤ d) :
    ∃ r, value? x = some r ∧ c ≤ r ∧ r ≤ d :=
  exists_value_of_between hv hw ((h.sides v c hv).1 hcz) ((h.sides w d hw).2 hzd)

/-- The floating-point number `x` is finite, and the nearest one to `z`. -/
def IsNearest (z : ℚ) (x : Float) : Prop := ∃ p, parts? x = some p ∧ Nearest z p

theorem Rounds.isNearest {z r : ℚ} {x : Float} (h : Rounds z x) (hx : value? x = some r) :
    IsNearest z x := by
  obtain ⟨p, hp, -⟩ := Option.map_eq_some_iff.1 hx
  exact ⟨p, hp, h.nearest p hp⟩

/-- The error of a rounded number is a share of the exact `z`. -/
theorem Rounds.abs_sub_value_le {z r : ℚ} {x : Float} (h : Rounds z x) (hx : value? x = some r)
    (hz : 2 ^ (-1022 : ℤ) ≤ |z|) : |z - r| ≤ |z| / 2 ^ 53 := by
  obtain ⟨p, hp, rfl⟩ := Option.map_eq_some_iff.1 hx
  exact (h.nearest p hp).abs_sub_le hz

/-- The value of a floating-point number is not changed when it `Rounds`. -/
theorem Rounds.value?_eq {z : ℚ} {x w : Float} (h : Rounds z x) (hw : value? w = some z) :
    value? x = some z := by
  obtain ⟨r, hr, hle, hge⟩ := h.exists_value hw hw le_rfl le_rfl
  rw [hr, le_antisymm hge hle]

end AssessmentItem.Binary64
