import AssessmentItem.Binary64.Shortest
import AssessmentItem.Proofs.Binary64.Rounding

/-!
# Shortest digits are read back

A decimal number lies in the neighbourhood of a floating-point number exactly if that is the nearest
one.  Seventeen digits are enough for some decimal number to lie there, so the shortest digits of a
number have it as their nearest one, and wherever a decimal number of a few digits has, the shortest
digits are no more than those.

## Main definitions

* `Binary64.Digits.value` : the exact value of decimal digits.
* `Binary64.Neighbourhood.Contains` : the exact numbers of a neighbourhood.

## Main results

* `Binary64.contains_neighbourhood_iff` : what lies in the neighbourhood of a number.
* `Binary64.exists_point?_seventeen` : seventeen digits are enough.
* `Binary64.nearest_shortest` : the shortest digits are read back.
* `Binary64.digits_shortest_lt_of_nearest` : no digits that are read back are fewer.
-/

namespace AssessmentItem.Binary64

/-! ### Grids -/

/-- The exact value of decimal digits. -/
def Digits.value (d : Digits) : ℚ := d.digits * 10 ^ d.exponent

theorem zpow_eq_div (b : ℚ) (n : ℤ) : b ^ n = b ^ n.toNat / b ^ (-n).toNat := by
  cases n with
  | ofNat k => simp
  | negSucc k => simp [zpow_negSucc]

theorem gridRatio_snd_pos (u step : ℤ) : 0 < (gridRatio u step).2 :=
  Nat.mul_pos (Nat.pow_pos (by decide)) (Nat.pow_pos (by decide))

theorem gridRatio_mul (u step : ℤ) :
    ((gridRatio u step).1 : ℚ) * 10 ^ step = 2 ^ u * (gridRatio u step).2 := by
  rw [zpow_eq_div 2, zpow_eq_div 10]
  simp only [gridRatio, Nat.pow_eq]
  push_cast
  field_simp

/-- Counts of units `2 ^ u` and of steps `10 ^ step` compare as the numbers that they stand for. -/
theorem mul_gridRatio_le_iff (u step : ℤ) (a c : ℕ) :
    a * (gridRatio u step).1 ≤ c * (gridRatio u step).2 ↔ (a : ℚ) * 2 ^ u ≤ c * 10 ^ step := by
  have hden : (0 : ℚ) < (gridRatio u step).2 := mod_cast gridRatio_snd_pos u step
  have hstep : (0 : ℚ) < 10 ^ step := by positivity
  rw [← Nat.cast_le (α := ℚ), Nat.cast_mul, Nat.cast_mul, ← mul_le_mul_iff_left₀ hstep, mul_assoc,
    gridRatio_mul, ← mul_assoc, mul_right_comm (c : ℚ), mul_le_mul_iff_left₀ hden]

theorem mul_gridRatio_lt_iff (u step : ℤ) (a c : ℕ) :
    a * (gridRatio u step).1 < c * (gridRatio u step).2 ↔ (a : ℚ) * 2 ^ u < c * 10 ^ step := by
  have hden : (0 : ℚ) < (gridRatio u step).2 := mod_cast gridRatio_snd_pos u step
  have hstep : (0 : ℚ) < 10 ^ step := by positivity
  rw [← Nat.cast_lt (α := ℚ), Nat.cast_mul, Nat.cast_mul, ← mul_lt_mul_iff_left₀ hstep, mul_assoc,
    gridRatio_mul, ← mul_assoc, mul_right_comm (c : ℚ), mul_lt_mul_iff_left₀ hden]

theorem le_mul_gridRatio_iff (u step : ℤ) (a c : ℕ) :
    c * (gridRatio u step).2 ≤ a * (gridRatio u step).1 ↔ (c : ℚ) * 10 ^ step ≤ a * 2 ^ u := by
  rw [← not_lt, mul_gridRatio_lt_iff, not_lt]

theorem lt_mul_gridRatio_iff (u step : ℤ) (a c : ℕ) :
    c * (gridRatio u step).2 < a * (gridRatio u step).1 ↔ (c : ℚ) * 10 ^ step < a * 2 ^ u := by
  rw [← not_le, mul_gridRatio_le_iff, not_le]

theorem decimalLength_le_iff {n k : ℕ} (hk : 0 < k) : decimalLength n ≤ k ↔ n < 10 ^ k :=
  Nat.length_toDigits_le_iff (by decide) hk

theorem decimalLength_eq {n : ℕ} (hn : n ≠ 0) : decimalLength n = Nat.log 10 n + 1 := by
  have hlt : n < 10 ^ (Nat.log 10 n + 1) := Nat.lt_pow_succ_log_self (by decide) n
  refine le_antisymm ((decimalLength_le_iff (Nat.succ_pos _)).2 hlt) ?_
  have hpos : 0 < decimalLength n := Nat.length_toDigits_pos
  have hlog : Nat.log 10 n < decimalLength n :=
    (Nat.log_lt_iff_lt_pow (by decide) hn).2 ((decimalLength_le_iff hpos).1 le_rfl)
  omega

/-! ### Neighbourhoods -/

namespace Neighbourhood

variable (n : Neighbourhood) (step : ℤ)

/-- The exact number in the middle. -/
def middle : ℚ := n.value * 2 ^ n.unitExponent

/-- The exact numbers from `lower` to `upper`, the ends included if the neighbourhood is
`closed`. -/
def Contains (c : ℚ) : Prop :=
  if n.closed then n.lower * 2 ^ n.unitExponent ≤ c ∧ c ≤ n.upper * 2 ^ n.unitExponent
  else n.lower * 2 ^ n.unitExponent < c ∧ c < n.upper * 2 ^ n.unitExponent

/-- The greatest point of a grid that is not above the `middle`. -/
def below : ℕ := n.value * (gridRatio n.unitExponent step).1 / (gridRatio n.unitExponent step).2

theorem below_le : (n.below step : ℚ) * 10 ^ step ≤ n.middle := by
  have hle : n.below step * (gridRatio n.unitExponent step).2 ≤
      n.value * (gridRatio n.unitExponent step).1 := Nat.div_mul_le_self _ _
  rwa [le_mul_gridRatio_iff] at hle

theorem lt_below_add_one : n.middle < ((n.below step : ℚ) + 1) * 10 ^ step := by
  have hlt : n.value * (gridRatio n.unitExponent step).1 <
      (n.below step + 1) * (gridRatio n.unitExponent step).2 :=
    Nat.lt_mul_of_div_lt (Nat.lt_succ_self _) (gridRatio_snd_pos _ _)
  rwa [mul_gridRatio_lt_iff, Nat.cast_add_one] at hlt

variable {n step}

theorem holds_iff {count : ℕ} : n.holds step count = true ↔ n.Contains (count * 10 ^ step) := by
  change (if n.closed then
    decide (n.lower * (gridRatio n.unitExponent step).1 ≤
        count * (gridRatio n.unitExponent step).2) &&
      decide (count * (gridRatio n.unitExponent step).2 ≤
        n.upper * (gridRatio n.unitExponent step).1)
    else
      decide (n.lower * (gridRatio n.unitExponent step).1 <
        count * (gridRatio n.unitExponent step).2) &&
      decide (count * (gridRatio n.unitExponent step).2 <
        n.upper * (gridRatio n.unitExponent step).1)) = true ↔ _
  unfold Contains
  split_ifs <;> rw [Bool.and_eq_true, decide_eq_true_iff, decide_eq_true_iff]
  · rw [mul_gridRatio_le_iff, le_mul_gridRatio_iff]
  · rw [mul_gridRatio_lt_iff, lt_mul_gridRatio_iff]

theorem Contains.of_between {a b c : ℚ} (ha : n.Contains a) (hb : n.Contains b) (hac : a ≤ c)
    (hcb : c ≤ b) : n.Contains c := by
  unfold Contains at *
  split_ifs at * <;> exact ⟨by linarith, by linarith⟩

theorem point?_eq : n.point? step =
    match n.holds step (n.below step), n.holds step (n.below step + 1) with
    | true, true =>
      if 2 * (n.value * (gridRatio n.unitExponent step).1) <
          (2 * n.below step + 1) * (gridRatio n.unitExponent step).2 then some (n.below step)
      else some (n.below step + 1)
    | true, false => some (n.below step)
    | false, true => some (n.below step + 1)
    | false, false => none := rfl

/-- A point of a grid that `point?` gives is one of those next to the `middle`. -/
theorem point?_eq_some {count : ℕ} (h : n.point? step = some count) :
    n.Contains (count * 10 ^ step) ∧ count ≤ n.below step + 1 := by
  rw [← holds_iff]
  rw [point?_eq] at h
  split at h
  · split_ifs at h <;> cases h
    · exact ⟨‹_›, Nat.le_succ _⟩
    · exact ⟨‹_›, le_rfl⟩
  · cases h
    exact ⟨‹_›, Nat.le_succ _⟩
  · cases h
    exact ⟨‹_›, le_rfl⟩
  · nomatch h

/-- A grid with any point in the neighbourhood has one that `point?` gives. -/
theorem exists_point? (hmiddle : n.Contains n.middle) (count : ℕ)
    (h : n.Contains (count * 10 ^ step)) : ∃ count', n.point? step = some count' := by
  have hstep : (0 : ℚ) < 10 ^ step := by positivity
  have hnext : n.holds step (n.below step) = true ∨ n.holds step (n.below step + 1) = true := by
    rw [holds_iff, holds_iff, Nat.cast_add_one]
    rcases le_or_gt count (n.below step) with hle | hgt
    · refine .inl (h.of_between hmiddle ?_ (n.below_le step))
      gcongr
    · refine .inr (hmiddle.of_between h (n.lt_below_add_one step).le ?_)
      gcongr
      exact_mod_cast hgt
  rw [point?_eq]
  split
  · split_ifs <;> exact ⟨_, rfl⟩
  · exact ⟨_, rfl⟩
  · exact ⟨_, rfl⟩
  · simp_all

end Neighbourhood

/-! ### Neighbourhoods of floating-point numbers -/

/-- The distance to the next number below, in units of the last place. -/
def gapBelow (m : ℕ) (e : ℤ) : ℚ := if m = 4503599627370496 ∧ -1074 < e then 1 / 2 else 1

section Neighbourhoods

variable {m : ℕ} {e : ℤ} {u : ℚ}

theorem onGrid_sub_gapBelow (h : Canonical m e) : OnGrid ((m - gapBelow m e) * 2 ^ e) := by
  obtain ⟨hlt, hle, -⟩ := h
  unfold gapBelow
  split_ifs with hpower
  · obtain ⟨rfl, he⟩ := hpower
    have heq : ((4503599627370496 : ℕ) - 1 / 2 : ℚ) * 2 ^ e =
        (9007199254740991 : ℤ) * 2 ^ (e - 1) := by
      rw [zpow_sub_one₀ two_ne_zero]
      push_cast
      ring
    rw [heq]
    exact onGrid_of_le (by decide) (by omega)
  · have heq : ((m : ℚ) - 1) * 2 ^ e = (m - 1 : ℤ) * 2 ^ e := by push_cast; rfl
    rw [heq]
    exact onGrid_of_le (by omega) hle

/-- The ends of a `neighbourhood` are half way to the next numbers. -/
theorem contains_neighbourhood (hm : 0 < m) :
    (neighbourhood m e).Contains (u * 2 ^ e) ↔
      if Even m then m - gapBelow m e / 2 ≤ u ∧ u ≤ m + 1 / 2
      else m - gapBelow m e / 2 < u ∧ u < m + 1 / 2 := by
  have hpos : (0 : ℚ) < 2 ^ e := zpow_pos two_pos e
  have hunit : (2 : ℚ) ^ e = 4 * 2 ^ (e - 2) := by
    rw [zpow_sub₀ two_ne_zero]
    norm_num
    ring
  have hlower : (neighbourhood m e).lower * (2 : ℚ) ^ (e - 2) = (m - gapBelow m e / 2) * 2 ^ e := by
    rw [hunit, ← mul_assoc]
    congr 1
    rw [neighbourhood, gapBelow]
    split_ifs
    · rw [Nat.cast_sub (by omega)]
      push_cast
      ring
    · rw [Nat.cast_sub (by omega)]
      push_cast
      ring
  have hupper : (neighbourhood m e).upper * (2 : ℚ) ^ (e - 2) = (m + 1 / 2) * 2 ^ e := by
    rw [hunit, ← mul_assoc]
    congr 1
    rw [neighbourhood]
    push_cast
    ring
  have hclosed : (neighbourhood m e).closed = true ↔ Even m := by
    rw [Nat.even_iff]
    exact beq_iff_eq
  unfold Neighbourhood.Contains
  change (if _ then (_ : ℚ) * 2 ^ (e - 2) ≤ _ ∧ _ ≤ (_ : ℚ) * 2 ^ (e - 2) else
    (_ : ℚ) * 2 ^ (e - 2) < _ ∧ _ < (_ : ℚ) * 2 ^ (e - 2)) ↔ _
  rw [hlower, hupper]
  simp only [hclosed, mul_le_mul_iff_left₀ hpos, mul_lt_mul_iff_left₀ hpos]

theorem contains_of_lt_of_lt (hm : 0 < m) (hlow : m - gapBelow m e / 2 < u)
    (hhigh : u < m + 1 / 2) :
    (neighbourhood m e).Contains (u * 2 ^ e) := by
  rw [contains_neighbourhood hm]
  split_ifs
  · exact ⟨hlow.le, hhigh.le⟩
  · exact ⟨hlow, hhigh⟩

/-- What lies nearer to `v` than to `b` lies on its side of the half way. -/
theorem le_half_way {c v b : ℚ} (h : |c - v| ≤ |c - b|) (hvb : v < b) : c ≤ (v + b) / 2 := by
  have hle := (le_abs_self (c - v)).trans h
  rcases le_total c b with hcb | hbc
  · rw [abs_of_nonpos (sub_nonpos.2 hcb)] at hle
    linarith
  · rw [abs_of_nonneg (sub_nonneg.2 hbc)] at hle
    linarith

theorem half_way_le {c v b : ℚ} (h : |c - v| ≤ |c - b|) (hbv : b < v) : (v + b) / 2 ≤ c := by
  have hle := (neg_le_abs (c - v)).trans h
  rcases le_total c b with hcb | hbc
  · rw [abs_of_nonpos (sub_nonpos.2 hcb)] at hle
    linarith
  · rw [abs_of_nonneg (sub_nonneg.2 hbc)] at hle
    linarith

theorem nearest_of_above (h : Canonical m e) (hle : m ≤ u) (hhalf : u ≤ m + 1 / 2)
    (heven : u = m + 1 / 2 → Even m) : Nearest (u * 2 ^ e) ⟨false, m, e⟩ := by
  refine nearest_of_neighbour h.full hle (by linarith) ?_ ?_ (Parts.value_positive m e) id <;>
    rw [abs_of_nonneg (sub_nonneg.2 hle)]
  · linarith
  · exact fun heq ↦ heven (by linarith)

theorem nearest_of_below (h : Canonical m e) (hm : 0 < m) (hle : u ≤ m)
    (hhalf : m - gapBelow m e / 2 ≤ u) (heven : u = m - gapBelow m e / 2 → Even m) :
    Nearest (u * 2 ^ e) ⟨false, m, e⟩ := by
  have hvalue := Parts.value_positive m e
  unfold gapBelow at hhalf heven
  split_ifs at hhalf heven with hpower
  -- Below a power of two the unit is half as great.
  · obtain ⟨rfl, he⟩ := hpower
    have hscale (c : ℚ) : c * 2 ^ e = c * 2 * 2 ^ (e - 1) := by
      rw [zpow_sub_one₀ two_ne_zero]
      ring
    rw [hscale]
    refine nearest_of_neighbour (q := 9007199254740991) (r := 9007199254740992) (.inl (by decide))
      ?_ ?_ ?_ (fun _ ↦ by decide) ?_ (fun _ ↦ ⟨2251799813685248, rfl⟩) <;> push_cast at *
    · linarith
    · linarith
    · rw [abs_of_nonpos (by linarith)]
      linarith
    · refine hvalue.trans ((hscale _).trans ?_)
      norm_num
  · have hfull : 2 ^ 52 ≤ m - 1 ∨ e = -1074 := by
      have hfull := h.full
      have hle := h.le
      omega
    have hpred : ((m - 1 : ℕ) : ℚ) = m - 1 := by
      rw [Nat.cast_sub (by omega), Nat.cast_one]
    refine nearest_of_neighbour hfull ?_ ?_ ?_ ?_ hvalue id
    · rw [hpred]
      linarith
    · rw [hpred]
      linarith
    · rw [abs_of_nonpos (sub_nonpos.2 hle)]
      linarith
    · rw [abs_of_nonpos (sub_nonpos.2 hle)]
      exact fun heq ↦ heven (by linarith)

/-- What has a number as the `Nearest` one lies between the half ways to its neighbours, and on one
of these if the number is even. -/
theorem bounds_of_nearest (h : Canonical m e) (hnearest : Nearest (u * 2 ^ e) ⟨false, m, e⟩) :
    m - gapBelow m e / 2 ≤ u ∧ u ≤ m + 1 / 2 ∧
      (u = m - gapBelow m e / 2 ∨ u = m + 1 / 2 → Even m) := by
  have hpos : (0 : ℚ) < 2 ^ e := zpow_pos two_pos e
  have hvalue : Parts.value ⟨false, m, e⟩ = m * 2 ^ e := Parts.value_positive m e
  have hgap : 0 < gapBelow m e := by
    unfold gapBelow
    split_ifs <;> norm_num
  have habove : OnGrid ((m + 1) * 2 ^ e) := by
    have hgrid := onGrid_of_le (k := m + 1) (g := e) (by have := h.lt; omega) h.le
    exact_mod_cast hgrid
  have hscale (v : ℚ) : |u * 2 ^ e - v * 2 ^ e| = |u - v| * 2 ^ e := by
    rw [← sub_mul, abs_mul, abs_of_pos hpos]
  have hle {v : ℚ} (hv : OnGrid (v * 2 ^ e)) : |u - m| ≤ |u - v| := by
    have hle := hnearest.le _ hv
    rw [hvalue, hscale, hscale] at hle
    exact le_of_mul_le_mul_right hle hpos
  have heven {v : ℚ} (hv : OnGrid (v * 2 ^ e)) (hne : v ≠ m) (heq : |u - v| = |u - m|) :
      Even m := by
    refine hnearest.even _ hv ?_ (by rw [hvalue, hscale, hscale, heq])
    rw [hvalue]
    exact fun hsame ↦ hne (mul_right_cancel₀ hpos.ne' hsame)
  have hlower := half_way_le (hle (onGrid_sub_gapBelow h)) (by linarith)
  have hupper := le_half_way (hle habove) (by linarith)
  refine ⟨by linarith, by linarith, ?_⟩
  rintro (heq | heq)
  · refine heven (onGrid_sub_gapBelow h) (by linarith) ?_
    rw [heq, abs_of_nonneg (by linarith), abs_of_nonpos (by linarith)]
    linarith
  · refine heven habove (by linarith) ?_
    rw [heq, abs_of_nonpos (by linarith), abs_of_nonneg (by linarith)]
    linarith

/-- The numbers of a `neighbourhood` are those that have its floating-point number as the nearest
one. -/
theorem contains_neighbourhood_iff (h : Canonical m e) (hm : 0 < m) {c : ℚ} :
    (neighbourhood m e).Contains c ↔ Nearest c ⟨false, m, e⟩ := by
  have hpos : (0 : ℚ) < 2 ^ e := zpow_pos two_pos e
  obtain ⟨u, rfl⟩ : ∃ u, c = u * 2 ^ e := ⟨c / 2 ^ e, (div_mul_cancel₀ c hpos.ne').symm⟩
  rw [contains_neighbourhood hm]
  constructor
  · intro hu
    have hbounds : m - gapBelow m e / 2 ≤ u ∧ u ≤ m + 1 / 2 := by
      split_ifs at hu
      · exact hu
      · exact ⟨hu.1.le, hu.2.le⟩
    have heven (hend : u = m + 1 / 2 ∨ u = m - gapBelow m e / 2) : Even m := by
      by_contra hodd
      rw [if_neg hodd] at hu
      obtain rfl | rfl := hend
      · exact hu.2.false
      · exact hu.1.false
    rcases le_total (m : ℚ) u with hle | hle
    · exact nearest_of_above h hle hbounds.2 fun heq ↦ heven (.inl heq)
    · exact nearest_of_below h hm hle hbounds.1 fun heq ↦ heven (.inr heq)
  · intro hnearest
    obtain ⟨hlow, hhigh, heven⟩ := bounds_of_nearest h hnearest
    split_ifs with hm'
    · exact ⟨hlow, hhigh⟩
    · exact ⟨lt_of_le_of_ne hlow fun heq ↦ hm' (heven (.inl heq.symm)),
        lt_of_le_of_ne hhigh fun heq ↦ hm' (heven (.inr heq))⟩

theorem middle_neighbourhood (m : ℕ) (e : ℤ) : (neighbourhood m e).middle = m * 2 ^ e := by
  have hunit : (2 : ℚ) ^ e = 4 * 2 ^ (e - 2) := by
    rw [zpow_sub₀ two_ne_zero]
    norm_num
    ring
  rw [hunit, Neighbourhood.middle, neighbourhood]
  push_cast
  ring

theorem contains_middle (h : Canonical m e) (hm : 0 < m) :
    (neighbourhood m e).Contains (neighbourhood m e).middle := by
  rw [contains_neighbourhood_iff h hm, middle_neighbourhood]
  exact Parts.value_positive m e ▸ nearest_self _

end Neighbourhoods

/-! ### The search -/

section Search

variable {m : ℕ} {e : ℤ}

theorem log_eq {z : ℚ} {l : ℤ} (hle : 10 ^ l ≤ z) (hlt : z < 10 ^ (l + 1)) : Int.log 10 z = l := by
  have hpos : 0 < z := lt_of_lt_of_le (by positivity) hle
  have hlow := (Int.zpow_le_iff_le_log (b := 10) (by decide) hpos).1 (mod_cast hle)
  have hhigh := (Int.lt_zpow_iff_log_lt (b := 10) (by decide) hpos).1 (mod_cast hlt)
  omega

/-- The least power of two is above the power of ten with which the first digit is found. -/
theorem ten_zpow_le_two_zpow : (10 : ℚ) ^ (-400 : ℤ) ≤ 2 ^ (-1074 : ℤ) := by
  have hle : (2 : ℚ) ^ 1074 ≤ 10 ^ 400 :=
    calc (2 : ℚ) ^ 1074 = (2 ^ 3) ^ 358 := by rw [← pow_mul]
      _ ≤ 10 ^ 358 := pow_le_pow_left₀ (by norm_num) (by norm_num) _
      _ ≤ 10 ^ 400 := pow_le_pow_right₀ (by norm_num) (by norm_num)
  rw [zpow_neg, zpow_neg]
  exact inv_anti₀ (by positivity) (mod_cast hle)

/-- The search starts with `leadingExponent`, the place of the first digit. -/
theorem leadingExponent_neighbourhood (h : Canonical m e) (hm : 0 < m) :
    leadingExponent (neighbourhood m e) = Int.log 10 ((m : ℚ) * 2 ^ e) := by
  have hlow := (neighbourhood m e).below_le (-400)
  have hhigh := (neighbourhood m e).lt_below_add_one (-400)
  change (decimalLength ((neighbourhood m e).below (-400)) : ℤ) - 1 - 400 = _
  rw [middle_neighbourhood] at hlow hhigh
  generalize (neighbourhood m e).below (-400) = w at hlow hhigh ⊢
  have hleast : (10 : ℚ) ^ (-400 : ℤ) ≤ m * 2 ^ e :=
    calc (10 : ℚ) ^ (-400 : ℤ) ≤ 2 ^ (-1074 : ℤ) := ten_zpow_le_two_zpow
      _ ≤ 2 ^ e := zpow_le_zpow_right₀ one_le_two h.le
      _ ≤ m * 2 ^ e := le_mul_of_one_le_left (by positivity) (mod_cast hm)
  have hne : w ≠ 0 := by
    rintro rfl
    rw [Nat.cast_zero, zero_add, one_mul] at hhigh
    exact hhigh.not_ge hleast
  have hpower : (10 : ℚ) ^ Nat.log 10 w ≤ w := mod_cast Nat.pow_log_le_self 10 hne
  have hpower' : (w : ℚ) + 1 ≤ 10 ^ (Nat.log 10 w + 1) :=
    mod_cast Nat.lt_pow_succ_log_self (by decide) w
  have hten : (10 : ℚ) ≠ 0 := by norm_num
  rw [decimalLength_eq hne, Nat.cast_add_one, add_sub_cancel_right]
  refine (log_eq ?_ ?_).symm
  · refine le_trans ?_ hlow
    rw [sub_eq_add_neg, zpow_add₀ hten, zpow_natCast]
    gcongr
  · refine hhigh.trans_le ?_
    rw [sub_add_eq_add_sub, sub_eq_add_neg, zpow_add₀ hten, ← Nat.cast_succ (Nat.log 10 w),
      zpow_natCast]
    gcongr

/-- Seventeen digits are enough for a point in the neighbourhood: the step is shorter than the gap
to the next number. -/
theorem exists_point?_seventeen (h : Canonical m e) (hm : 0 < m) :
    ∃ count, (neighbourhood m e).point? (Int.log 10 ((m : ℚ) * 2 ^ e) - 16) = some count := by
  have hpos : (0 : ℚ) < 2 ^ e := zpow_pos two_pos e
  have hlog := Int.zpow_log_le_self (b := 10) (by decide) (show (0 : ℚ) < m * 2 ^ e by positivity)
  generalize hl : Int.log 10 ((m : ℚ) * 2 ^ e) = l at hlog ⊢
  -- The step in units of the last place.
  let width : ℚ := 10 ^ (l - 16) / 2 ^ e
  have hwidth : (10 : ℚ) ^ (l - 16) = width * 2 ^ e := (div_mul_cancel₀ _ hpos.ne').symm
  have hshort : width * 10 ^ 16 ≤ m := by
    refine le_of_mul_le_mul_right (le_trans (le_of_eq ?_) hlog) hpos
    rw [mul_right_comm, ← hwidth, zpow_sub₀ (by norm_num)]
    norm_num
  have hlt : (m : ℚ) < 2 ^ 53 := mod_cast h.lt
  have hgap : width < gapBelow m e := by
    unfold gapBelow
    split_ifs with hpower
    · rw [hpower.1] at hshort
      norm_num at hshort
      linarith
    · linarith
  have hlow := (neighbourhood m e).below_le (l - 16)
  have hhigh := (neighbourhood m e).lt_below_add_one (l - 16)
  rw [middle_neighbourhood, hwidth, ← mul_assoc, mul_le_mul_iff_left₀ hpos] at hlow
  rw [middle_neighbourhood, hwidth, ← mul_assoc, mul_lt_mul_iff_left₀ hpos] at hhigh
  rcases le_or_gt (((neighbourhood m e).below (l - 16) + 1) * width - m) (width / 2) with
    hnear | hfar
  · refine Neighbourhood.exists_point? (contains_middle h hm)
      ((neighbourhood m e).below (l - 16) + 1) ?_
    rw [hwidth, ← mul_assoc, Nat.cast_add_one]
    exact contains_of_lt_of_lt hm (by linarith) (by linarith)
  · refine Neighbourhood.exists_point? (contains_middle h hm)
      ((neighbourhood m e).below (l - 16)) ?_
    rw [hwidth, ← mul_assoc]
    exact contains_of_lt_of_lt hm (by linarith) (by linarith)

theorem exists_search_eq (n : Neighbourhood) {step : ℤ} {i fuel count : ℕ} (hi : i < fuel)
    (h : n.point? (step - i) = some count) :
    ∃ j count', j ≤ i ∧ n.point? (step - j) = some count' ∧
      n.search step fuel = ⟨count', step - j⟩ := by
  induction fuel generalizing step i with
  | zero => omega
  | succ fuel ih =>
    rw [Neighbourhood.search]
    cases hpoint : n.point? step with
    | some count' =>
      refine ⟨0, count', Nat.zero_le i, ?_, ?_⟩
      · rwa [Nat.cast_zero, sub_zero]
      · rw [Nat.cast_zero, sub_zero]
    | none =>
      cases i with
      | zero =>
        rw [Nat.cast_zero, sub_zero, hpoint] at h
        nomatch h
      | succ i =>
        rw [Nat.cast_succ, ← sub_sub, sub_right_comm] at h
        obtain ⟨j, count', hj, hcount', hsearch⟩ := ih (by omega) h
        refine ⟨j + 1, count', by omega, ?_, ?_⟩ <;>
          rw [Nat.cast_succ, ← sub_sub, sub_right_comm]
        · exact hcount'
        · exact hsearch

end Search

/-! ### Zeros at the end -/

namespace Digits

theorem value_strip (d : Digits) (fuel : ℕ) : (d.strip fuel).value = d.value := by
  induction fuel generalizing d with
  | zero => rfl
  | succ fuel ih =>
    rw [strip]
    split_ifs with h
    · rw [ih]
      have hdigits : (d.digits : ℚ) = (d.digits / 10 : ℕ) * 10 := by
        exact_mod_cast (Nat.div_mul_cancel (Nat.dvd_of_mod_eq_zero h.1)).symm
      rw [value, value, zpow_add_one₀ (by norm_num), hdigits]
      ring
    · rfl

theorem digits_strip_le (d : Digits) (fuel : ℕ) : (d.strip fuel).digits ≤ d.digits := by
  induction fuel generalizing d with
  | zero => exact le_rfl
  | succ fuel ih =>
    rw [strip]
    split_ifs
    · exact (ih _).trans (Nat.div_le_self _ _)
    · exact le_rfl

/-- No zero is left at the end by `strip`. -/
theorem digits_strip_mod (d : Digits) {fuel : ℕ} (hpos : 0 < d.digits)
    (hlt : d.digits < 10 ^ (fuel + 1)) : (d.strip fuel).digits % 10 ≠ 0 := by
  induction fuel generalizing d with
  | zero =>
    rw [strip]
    omega
  | succ fuel ih =>
    rw [strip]
    split_ifs with h
    · refine ih _ (by dsimp only; omega) ?_
      exact Nat.div_lt_of_lt_mul (by rwa [pow_succ'] at hlt)
    · omega

end Digits

/-! ### Shortest digits -/

section Shortest

variable {m : ℕ} {e : ℤ}

theorem shortest_eq (hm : 0 < m) : shortest m e =
    ((neighbourhood m e).search (leadingExponent (neighbourhood m e)) 17).strip 17 := by
  rw [shortest, if_neg hm.ne']

theorem pos_of_nearest (hm : 0 < m) {c : ℚ} (h : Nearest c ⟨false, m, e⟩) : 0 < c := by
  by_contra hc
  have hzero : OnGrid 0 := ⟨0, 0, by decide, by decide, by simp⟩
  have hle := (h.sides hzero).2 (not_lt.1 hc)
  rw [Parts.value_positive] at hle
  have hpos : (0 : ℚ) < m * 2 ^ e := by positivity
  exact hpos.not_ge hle

/-- The `shortest` digits are at most as many as a grid with a point in the neighbourhood has. -/
theorem shortest_spec (h : Canonical m e) (hm : 0 < m) {i count : ℕ} (hi : i < 17)
    (hpoint : (neighbourhood m e).point? (Int.log 10 ((m : ℚ) * 2 ^ e) - i) = some count) :
    Nearest (shortest m e).value ⟨false, m, e⟩ ∧ (shortest m e).digits < 10 ^ (i + 1) := by
  obtain ⟨j, count', hj, hcount, hsearch⟩ := exists_search_eq _ hi hpoint
  rw [shortest_eq hm, leadingExponent_neighbourhood h hm, hsearch]
  obtain ⟨hcontains, hbelow⟩ := Neighbourhood.point?_eq_some hcount
  rw [contains_neighbourhood_iff h hm] at hcontains
  have hlt := Int.lt_zpow_succ_log_self (b := 10) (by decide) ((m : ℚ) * 2 ^ e)
  have hle := (neighbourhood m e).below_le (Int.log 10 ((m : ℚ) * 2 ^ e) - j)
  rw [middle_neighbourhood] at hle
  generalize Int.log 10 ((m : ℚ) * 2 ^ e) = l at *
  have hcount' : count' ≤ 10 ^ (i + 1) := by
    have hstep : (0 : ℚ) < 10 ^ (l - j) := by positivity
    have hpower : (10 : ℚ) ^ (l + 1) = 10 ^ (j + 1) * 10 ^ (l - j) := by
      rw [← zpow_natCast, ← zpow_add₀ (by norm_num)]
      congr 1
      push_cast
      ring
    have hlt := hle.trans_lt hlt
    rw [Nat.cast_ofNat, hpower, mul_lt_mul_iff_left₀ hstep] at hlt
    have hlt : (neighbourhood m e).below (l - j) < 10 ^ (j + 1) := by exact_mod_cast hlt
    have hmono : 10 ^ (j + 1) ≤ 10 ^ (i + 1) := Nat.pow_le_pow_right (by decide) (by omega)
    omega
  have hpos : 0 < count' := by
    have hpos := pos_of_nearest hm hcontains
    exact_mod_cast (pos_iff_pos_of_mul_pos hpos).2 (by positivity)
  refine ⟨?_, lt_of_le_of_ne ((Digits.digits_strip_le _ _).trans hcount') fun heq ↦ ?_⟩
  · rw [Digits.value_strip]
    exact hcontains
  · have hlong : count' < 10 ^ (17 + 1) :=
      lt_of_le_of_lt hcount' (Nat.pow_lt_pow_right (by decide) (by omega))
    refine Digits.digits_strip_mod ⟨count', l - j⟩ hpos hlong ?_
    rw [heq, pow_succ]
    exact Nat.mul_mod_left _ _

theorem nearest_shortest (h : Canonical m e) (hm : 0 < m) :
    Nearest (shortest m e).value ⟨false, m, e⟩ := by
  obtain ⟨count, hcount⟩ := exists_point?_seventeen h hm
  exact (shortest_spec h hm (i := 16) (by decide) hcount).1

theorem digits_shortest_lt (h : Canonical m e) (hm : 0 < m) : (shortest m e).digits < 10 ^ 17 := by
  obtain ⟨count, hcount⟩ := exists_point?_seventeen h hm
  exact (shortest_spec h hm (i := 16) (by decide) hcount).2

/-- No decimal number that is read back has fewer digits than `shortest` gives. -/
theorem digits_shortest_lt_of_nearest (h : Canonical m e) (hm : 0 < m) {r k : ℕ} {t : ℤ}
    (hr : r < 10 ^ k) (hk : 0 < k) (hnearest : Nearest (r * 10 ^ t) ⟨false, m, e⟩) :
    (shortest m e).digits < 10 ^ k := by
  have hten : (10 : ℚ) ≠ 0 := by norm_num
  have hvalue : (0 : ℚ) < m * 2 ^ e := by positivity
  have hlog := Int.zpow_log_le_self (b := 10) (by decide) hvalue
  have hspec {i : ℕ} (hi : i < 17) (count : ℕ)
      (hc : (neighbourhood m e).Contains (count * 10 ^ (Int.log 10 ((m : ℚ) * 2 ^ e) - i))) :
      (shortest m e).digits < 10 ^ (i + 1) := by
    obtain ⟨count', hcount⟩ := Neighbourhood.exists_point? (contains_middle h hm) count hc
    exact (shortest_spec h hm hi hcount).2
  have hcontains := (contains_neighbourhood_iff h hm).2 hnearest
  have hmono {i : ℕ} (hi : i + 1 ≤ k) : 10 ^ (i + 1) ≤ 10 ^ k := Nat.pow_le_pow_right (by decide) hi
  generalize Int.log 10 ((m : ℚ) * 2 ^ e) = l at hlog hspec
  rcases lt_or_ge l t with hlt | hge
  -- The point lies on the grid of the first digit.
  · obtain ⟨d, rfl⟩ := Int.le.dest hlt.le
    refine (hspec (i := 0) (by decide) (r * 10 ^ d) ?_).trans_le (hmono hk)
    rw [zpow_add₀ hten, zpow_natCast] at hcontains
    push_cast
    rwa [sub_zero, mul_assoc, mul_comm ((10 : ℚ) ^ d)]
  · obtain ⟨d, rfl⟩ := Int.le.dest hge
    rcases le_or_gt (d + 1) k with hshort | hlong
    · rcases lt_or_ge d 17 with hd | hd
      · refine (hspec hd r ?_).trans_le (hmono hshort)
        rwa [add_sub_cancel_right]
      · exact (digits_shortest_lt h hm).trans_le (Nat.pow_le_pow_right (by decide) (by omega))
    -- The number is not below the power of ten that the point lies below.
    · refine (hspec (i := 0) (by decide) 1 ?_).trans_le (hmono hk)
      have hr : (r : ℚ) ≤ 10 ^ d := by
        have hle : 10 ^ k ≤ 10 ^ d := Nat.pow_le_pow_right (by decide) (by omega)
        exact_mod_cast (hr.le.trans hle)
      refine hcontains.of_between (contains_middle h hm) ?_ ?_
      · rw [Nat.cast_one, one_mul, Nat.cast_zero, sub_zero, zpow_add₀ hten, zpow_natCast, mul_comm]
        gcongr
      · rw [middle_neighbourhood, Nat.cast_one, one_mul, Nat.cast_zero, sub_zero]
        exact mod_cast hlog

end Shortest

end AssessmentItem.Binary64
