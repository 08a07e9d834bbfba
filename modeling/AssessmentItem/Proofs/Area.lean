import AssessmentItem.Area
import AssessmentItem.Proofs.Binary64.Shares

/-!
# Circles and round ellipses

Whether a point lies in a circle is decided by the squares of its distances from the centre and of
the radius, and in a round ellipse by the squares of the distances divided by the radius.  Both
regions are the disc up to its rim: a point that is farther from the rim than rounding reaches lies
in both of them or in neither.  A radius that is a power of two divides without an error, and then
the regions are the same.  Near the rim the quotients may be rounded to the outside.  An ellipse has
no points unless its radius is positive, while a circle always contains its centre.

## Main definitions

* `Area.IsLength` : the differences of integers of 64 bits.
* `Area.Measured` : the distances of a point from a centre and a radius as exact numbers.
* `Area.RoundAreaLaws` : what a circle and a round ellipse have in common.

## Main results

* `Area.squares_le_iff`, `Area.quotients_le_iff` : both tests away from the rim.
* `Area.quotients_le_iff_squares_le` : both tests where the radius is a power of two.
* `Area.roundAreaLaws` : all of this for every centre, radius and point.
-/

namespace AssessmentItem.Area

open Binary64

/-! ### The two tests -/

/-- Zero, and the magnitudes from one on that integers of 64 bits can differ by, as the exact
`a`. -/
def IsLength (a : ℚ) : Prop := (a = 0 ∨ 1 ≤ |a|) ∧ |a| ≤ 2 ^ 64

theorem IsLength.moderate {a : ℚ} (h : IsLength a) : Moderate 64 |a| :=
  h.1.imp abs_eq_zero.2 fun hone ↦ ⟨le_trans (by norm_num) hone, h.2⟩

section Tests

variable {n : ℕ} {dx dy radius : Float} {a b s : ℚ}
  (hdx : value? dx = some a) (hdy : value? dy = some b) (hradius : value? radius = some s)

section Far

variable (ha : IsLength a) (hb : IsLength b) (hs : IsLength s)
  (hfar : s * s / 2 ^ 50 < |a * a + b * b - s * s|)

theorem moderate_mul_self (ha : Moderate n |a|) : Moderate (n + n) (a * a) :=
  abs_mul_abs_self a ▸ ha.mul ha

include hdx hdy hradius ha hb hs hfar in
/-- Away from the rim the squares of `dx`, `dy` and `radius` are compared as the exact ones are. -/
theorem squares_le_iff : dx * dx + dy * dy ≤ radius * radius ↔ a * a + b * b ≤ s * s := by
  have hsum := add_nonneg (mul_self_nonneg a) (mul_self_nonneg b)
  obtain ⟨v, hv, hv'⟩ := exists_within_squares hdx hdy (.refl _) (.refl _)
    (moderate_mul_self ha.moderate) (moderate_mul_self hb.moderate) (by decide) (by decide)
  obtain ⟨t, ht, ht'⟩ := (rounds_mul hradius hradius).exists_within (.refl _)
    (moderate_mul_self hs.moderate) (by decide) (by decide)
  rw [le_iff hv ht]
  exact (hv'.mono hsum (by decide)).le_iff_le ht' (mul_self_nonneg s) hfar

include hdx hdy hradius ha hb hs hfar in
/-- Away from the rim the squares of `dx / radius` and `dy / radius` are too. -/
theorem quotients_le_iff (hpos : 0 < s) :
    dx / radius * (dx / radius) + dy / radius * (dy / radius) ≤ 1 ↔ a * a + b * b ≤ s * s := by
  have hquotient {c : ℚ} (hc : IsLength c) : Moderate 128 |c / s| := by
    rw [abs_div, div_eq_mul_inv]
    exact hc.moderate.mul hs.moderate.inv
  obtain ⟨p, hp, hnear⟩ := (rounds_div hdx hradius hpos.ne').exists_near (hquotient ha) (by decide)
  obtain ⟨q, hq, hnear'⟩ := (rounds_div hdy hradius hpos.ne').exists_near (hquotient hb) (by decide)
  obtain ⟨v, hv, hv'⟩ := exists_within_squares hp hq (within_mul_self hnear)
    (within_mul_self hnear') (moderate_mul_self (hquotient ha)) (moderate_mul_self (hquotient hb))
    (by decide) (by decide)
  have hsquare : 0 < s * s := mul_pos hpos hpos
  have hsum : a / s * (a / s) + b / s * (b / s) = (a * a + b * b) / (s * s) := by
    rw [div_mul_div_comm, div_mul_div_comm, add_div]
  rw [hsum] at hv'
  have hfar' : 1 / 2 ^ 50 < |(a * a + b * b) / (s * s) - 1| := by
    rw [← div_self hsquare.ne', ← sub_div, abs_div, abs_of_pos hsquare, div_right_comm]
    gcongr
  rw [le_iff hv value?_one, hv'.le_iff_le ((Within.refl 1).mono zero_le_one zero_le_one) zero_le_one
    hfar', div_le_one hsquare]

end Far

section PowersOfTwo

variable (ha : IsLength a) (hb : IsLength b)

include hdx ha in
/-- The square of `dx / radius` is that of `dx`, divided by a power of two, where `radius` is
one. -/
theorem exists_square (hradius : value? radius = some (2 ^ n)) (hn : n ≤ 64) :
    ∃ v, value? (dx * dx) = some v ∧
      value? (dx / radius * (dx / radius)) = some (v / 2 ^ (n + n)) ∧ (v = 0 ∨ 1 ≤ v) ∧
        v ≤ 2 ^ 128 := by
  have hround := rounds_mul hdx hdx
  have hle : |a * a| ≤ 2 ^ 128 := by
    rw [abs_mul]
    calc |a| * |a| ≤ 2 ^ 64 * 2 ^ 64 := mul_self_le_mul_self (abs_nonneg a) ha.2
      _ = 2 ^ 128 := by norm_num
  have hone : a * a = 0 ∨ 1 ≤ a * a := by
    refine ha.1.imp (fun h ↦ by rw [h, zero_mul]) fun h ↦ ?_
    rw [← abs_mul_abs_self]
    exact one_le_mul_of_one_le_of_one_le h h
  obtain ⟨v, hv, hvle⟩ := hround.exists_value_of_abs_le (by decide) hle
  obtain ⟨w, hw⟩ := exists_value_div_two_pow hdx ha.1 (show n ≤ 900 by omega)
  have hquotient := (rounds_div hdx hradius (by positivity)).value?_eq hw
  have hround' := rounds_mul hquotient hquotient
  rw [div_mul_div_comm, ← pow_add] at hround'
  refine ⟨v, hv, ?_, ?_, (le_abs_self v).trans hvle⟩
  · exact hround.value?_div_two_pow hv hone ((le_abs_self _).trans hle) (by decide) (by omega)
      hround'
  · obtain hzero | hone := hone
    · rw [hzero] at hround
      exact .inl (hround.eq_zero hv)
    · exact .inr ((le_iff value?_one hv).1 ((hround.sides 1 1 value?_one).1 hone))

include hdx hdy ha hb in
/-- A `radius` that is a power of two makes no difference. -/
theorem quotients_le_iff_squares_le (hradius : value? radius = some (2 ^ n)) (hn : n ≤ 64) :
    dx / radius * (dx / radius) + dy / radius * (dy / radius) ≤ 1 ↔
      dx * dx + dy * dy ≤ radius * radius := by
  obtain ⟨v, hv, hv', hvone, hvle⟩ := exists_square hdx ha hradius hn
  obtain ⟨t, ht, ht', htone, htle⟩ := exists_square hdy hb hradius hn
  have hsum := rounds_add hv ht
  have hle : v + t ≤ 2 ^ 129 := by
    calc v + t ≤ 2 ^ 128 + 2 ^ 128 := add_le_add hvle htle
      _ = 2 ^ 129 := by norm_num
  have hone : v + t = 0 ∨ 1 ≤ v + t := by
    obtain rfl | hvone := hvone
    · rwa [zero_add]
    · have hnonneg : 0 ≤ t := htone.elim Eq.ge zero_le_one.trans
      exact .inr (by linarith)
  have hnonneg : 0 ≤ v + t := hone.elim Eq.ge zero_le_one.trans
  obtain ⟨u, hu, -⟩ := hsum.exists_value_of_abs_le (by decide) (abs_of_nonneg hnonneg ▸ hle)
  have hsum' := rounds_add hv' ht'
  rw [← add_div] at hsum'
  have hu' := hsum.value?_div_two_pow hu hone hle (by decide) (by omega) hsum'
  obtain ⟨w, hw⟩ := exists_value_two_pow (show n + n ≤ 971 by omega)
  have hsquare := rounds_mul hradius hradius
  rw [← pow_add] at hsquare
  rw [le_iff hu' value?_one, le_iff hu (hsquare.value?_eq hw), div_le_one (by positivity)]

end PowersOfTwo

section Whole

variable {i j k : ℤ}

/-- Whole numbers with few digits are compared as they are. -/
theorem squares_le_iff_of_int (hdx : value? dx = some (i : ℚ)) (hdy : value? dy = some (j : ℚ))
    (hradius : value? radius = some (k : ℚ)) (hi : i.natAbs ≤ 2 ^ 26) (hj : j.natAbs ≤ 2 ^ 26)
    (hk : k.natAbs ≤ 2 ^ 26) :
    dx * dx + dy * dy ≤ radius * radius ↔ i ^ 2 + j ^ 2 ≤ k ^ 2 := by
  have hsmall {m : ℤ} (hm : m.natAbs ≤ 2 ^ 26) : (m ^ 2).natAbs ≤ 2 ^ 52 := by
    rw [Int.natAbs_pow]
    exact Nat.pow_le_pow_left hm 2
  have hsquare {w : Float} {m : ℤ} (hw : value? w = some (m : ℚ)) (hm : m.natAbs ≤ 2 ^ 26) :
      value? (w * w) = some ((m ^ 2 : ℤ) : ℚ) := by
    have hle := hsmall hm
    have hround := rounds_mul hw hw
    rw [← sq, ← Int.cast_pow] at hround
    exact hround.value?_intCast (by omega)
  have hi' := hsmall hi
  have hj' := hsmall hj
  have hsum := rounds_add (hsquare hdx hi) (hsquare hdy hj)
  rw [← Int.cast_add] at hsum
  rw [le_iff (hsum.value?_intCast (by omega)) (hsquare hradius hk)]
  exact Int.cast_le

end Whole

/-- A distance of zero is no greater than any `radius`. -/
theorem squares_le_of_zero (hdx : value? dx = some 0) (hdy : value? dy = some 0)
    (hradius : value? radius = some s) : dx * dx + dy * dy ≤ radius * radius := by
  have hzero {w : Float} (hw : value? w = some 0) : value? (w * w) = some 0 := by
    have hround := rounds_mul hw hw
    rw [zero_mul] at hround
    exact hround.value?_eq value?_zero
  have hsum := rounds_add (hzero hdx) (hzero hdy)
  rw [add_zero] at hsum
  exact ((rounds_mul hradius hradius).sides _ 0 (hsum.value?_eq value?_zero)).1 (mul_self_nonneg s)

end Tests

/-! ### Distances -/

section Distances

variable {m n : Int64}

theorem exists_int_ofInteger (n : Int64) :
    ∃ k : ℤ, value? (ofInteger n) = some (k : ℚ) ∧ |(k : ℚ)| ≤ 2 ^ 63 := by
  obtain ⟨v, hv, hround⟩ := exists_rounds_ofInteger n
  have hlow := Int64.le_toInt n
  have hhigh := Int64.toInt_lt n
  rcases le_or_gt n.toInt.natAbs (2 ^ 53) with hsmall | hgreat
  · refine ⟨n.toInt, hround.value?_intCast hsmall, ?_⟩
    have habs : |n.toInt| ≤ 2 ^ 63 := by
      rw [Int.abs_eq_natAbs]
      omega
    exact_mod_cast habs
  · obtain ⟨w, hw⟩ := exists_value_two_pow (show 53 ≤ 971 by decide)
    have habs : (2 : ℤ) ^ 53 ≤ |n.toInt| ∧ |n.toInt| ≤ 2 ^ 63 := by
      rw [Int.abs_eq_natAbs]
      omega
    obtain ⟨k, rfl⟩ := exists_int_of_le_abs hv (hround.le_abs hv hw (by exact_mod_cast habs.1))
    obtain ⟨u, hu, hle⟩ :=
      hround.exists_value_of_abs_le (show 63 ≤ 971 by decide) (by exact_mod_cast habs.2)
    obtain rfl := Option.some_inj.1 (hv.symm.trans hu)
    exact ⟨k, hv, hle⟩

theorem exists_length (m n : Int64) :
    ∃ a, value? (ofInteger m - ofInteger n) = some a ∧ IsLength a := by
  obtain ⟨i, hi, hile⟩ := exists_int_ofInteger m
  obtain ⟨j, hj, hjle⟩ := exists_int_ofInteger n
  have hround := rounds_sub hi hj
  have hle : |(i : ℚ) - j| ≤ 2 ^ 64 :=
    calc |(i : ℚ) - j| ≤ |(i : ℚ)| + |(j : ℚ)| := abs_sub ..
      _ ≤ 2 ^ 63 + 2 ^ 63 := add_le_add hile hjle
      _ = 2 ^ 64 := by norm_num
  obtain ⟨a, ha, hale⟩ := hround.exists_value_of_abs_le (by decide) hle
  refine ⟨a, ha, ?_, hale⟩
  rcases eq_or_ne i j with rfl | hne
  · rw [sub_self] at hround
    exact .inl (hround.eq_zero ha)
  · refine .inr (hround.le_abs ha value?_one ?_)
    have habs : 1 ≤ |i - j| := Int.one_le_abs (sub_ne_zero.2 hne)
    exact_mod_cast habs

theorem isLength_of_int {k : ℤ} (hk : |(k : ℚ)| ≤ 2 ^ 64) : IsLength k := by
  refine ⟨or_iff_not_imp_left.2 fun hne ↦ ?_, hk⟩
  have habs : 1 ≤ |k| := Int.one_le_abs (mod_cast hne)
  exact_mod_cast habs

theorem exists_isLength_ofInteger (n : Int64) :
    ∃ s, value? (ofInteger n) = some s ∧ IsLength s ∧ (0 < n → 0 < s) := by
  obtain ⟨k, hk, hle⟩ := exists_int_ofInteger n
  refine ⟨k, hk, isLength_of_int (hle.trans (by norm_num)), fun hpos ↦ ?_⟩
  obtain ⟨-, -, hround⟩ := exists_rounds_ofInteger n
  have hone : 1 ≤ n.toInt := Int64.lt_iff_toInt_lt.1 hpos
  exact zero_lt_one.trans_le ((le_iff value?_one hk).1 ((hround.sides 1 1 value?_one).1
    (by exact_mod_cast hone)))

theorem value?_difference (hm : m.toInt.natAbs < 2 ^ 25) (hn : n.toInt.natAbs < 2 ^ 25) :
    value? (ofInteger m - ofInteger n) = some ((m.toInt - n.toInt : ℤ) : ℚ) := by
  have hround := rounds_sub (value?_ofInteger (n := m) (by omega))
    (value?_ofInteger (n := n) (by omega))
  rw [← Int.cast_sub] at hround
  exact hround.value?_intCast (by omega)

/-- The square of `ofInteger n` does not depend on the sign of `n`. -/
theorem ofInteger_neg_mul_self (n : Int64) :
    ofInteger (-n) * ofInteger (-n) = ofInteger n * ofInteger n := by
  have hlow := Int64.le_toInt n
  have hhigh := Int64.toInt_lt n
  by_cases hleast : n = Int64.minValue
  · rw [hleast]
    rfl
  have hleast : n.toInt ≠ -2 ^ 63 := fun h ↦ hleast (Int64.toInt_inj.1 h)
  have hneg : (-n).toInt = -n.toInt := by
    rw [Int64.toInt_neg, Int.bmod_eq_of_le (by omega) (by omega)]
  rw [ofInteger, ofInteger, hneg]
  generalize n.toInt = k
  cases k with
  | ofNat k =>
    cases k with
    | zero => rfl
    | succ k => exact neg_mul_neg_eq (.ofNat (k + 1)) (.ofNat (k + 1))
  | negSucc k => exact (neg_mul_neg_eq (.ofNat (k + 1)) (.ofNat (k + 1))).symm

end Distances

/-! ### Laws -/

variable {x y r px py : Int64} {a b s : ℚ}

/-- The distances `a` and `b` of a point from a centre and the radius `s`, as the exact values of
the floating-point numbers by which they are measured. -/
structure Measured (x y r px py : Int64) (a b s : ℚ) : Prop where
  horizontal : value? (ofInteger px - ofInteger x) = some a
  vertical : value? (ofInteger py - ofInteger y) = some b
  radius : value? (ofInteger r) = some s

/-- What a circle and a round ellipse have in common, `a` and `b` being the distances of a point
from the centre and `s` the radius. -/
structure RoundAreaLaws (x y r px py : Int64) (a b s : ℚ) : Prop where
  measured : Measured x y r px py a b s
  /-- Away from the rim the `circle` is the disc. -/
  circleDisc : s ^ 2 / 2 ^ 50 < |a ^ 2 + b ^ 2 - s ^ 2| →
    ((circle x y r).contains px py ↔ a ^ 2 + b ^ 2 ≤ s ^ 2)
  /-- So is the `ellipse`. -/
  ellipseDisc : 0 < r → s ^ 2 / 2 ^ 50 < |a ^ 2 + b ^ 2 - s ^ 2| →
    ((ellipse x y r r).contains px py ↔ a ^ 2 + b ^ 2 ≤ s ^ 2)
  /-- A radius `2 ^ n` makes both the same, on the rim too. -/
  powerOfTwo : ∀ n, r.toInt = 2 ^ n →
    (ellipse x y r r).contains px py = (circle x y r).contains px py
  /-- On an image the `circle` is the disc on the integers, and the `ellipse` is but for the rim. -/
  image : (∀ c ∈ [x, y, r, px, py], c.toInt.natAbs < 2 ^ 25) →
    ((circle x y r).contains px py ↔
        (px.toInt - x.toInt) ^ 2 + (py.toInt - y.toInt) ^ 2 ≤ r.toInt ^ 2) ∧
      (0 < r → (px.toInt - x.toInt) ^ 2 + (py.toInt - y.toInt) ^ 2 ≠ r.toInt ^ 2 →
        (ellipse x y r r).contains px py = (circle x y r).contains px py)
  /-- An `ellipse` without a positive radius has no points. -/
  empty : r ≤ 0 → (ellipse x y r r).contains px py = false
  /-- A `circle` always has its centre, -/
  centre : a = 0 → b = 0 → (circle x y r).contains px py
  /-- with a radius of zero nothing else, -/
  point : r = 0 → (circle x y r).contains px py → a = 0 ∧ b = 0
  /-- and with a negative radius the points that it has with the positive one. -/
  mirrored : (circle x y (-r)).contains px py = (circle x y r).contains px py

theorem contains_circle_iff : (circle x y r).contains px py ↔
    (ofInteger px - ofInteger x) * (ofInteger px - ofInteger x) +
      (ofInteger py - ofInteger y) * (ofInteger py - ofInteger y) ≤ ofInteger r * ofInteger r :=
  decide_eq_true_iff

theorem contains_ellipse_iff (hpos : 0 < r) : (ellipse x y r r).contains px py ↔
    (ofInteger px - ofInteger x) / ofInteger r * ((ofInteger px - ofInteger x) / ofInteger r) +
      (ofInteger py - ofInteger y) / ofInteger r * ((ofInteger py - ofInteger y) / ofInteger r) ≤
        1 := by
  rw [contains, if_neg (by simpa using hpos)]
  exact decide_eq_true_iff

/-- A point at whole distances `i` and `j` is on the rim of a disc that is not too great, or away
from it. -/
theorem far_of_int {i j k : ℤ} (hk : k.natAbs < 2 ^ 25) (hne : i ^ 2 + j ^ 2 ≠ k ^ 2) :
    (k : ℚ) * k / 2 ^ 50 < |(i : ℚ) * i + j * j - k * k| := by
  have hsquare : (k ^ 2).natAbs < 2 ^ 50 := by
    rw [Int.natAbs_pow]
    exact Nat.pow_lt_pow_left hk (by decide)
  have hsmall : k ^ 2 < 2 ^ 50 := by
    omega
  have hsmall : (k : ℚ) * k < 2 ^ 50 := by
    rw [← sq]
    exact_mod_cast hsmall
  have hone : 1 ≤ |i ^ 2 + j ^ 2 - k ^ 2| := Int.one_le_abs (sub_ne_zero.2 hne)
  have hone : 1 ≤ |(i : ℚ) * i + j * j - k * k| := by
    rw [← sq, ← sq, ← sq]
    exact_mod_cast hone
  exact ((div_lt_one (by positivity)).2 hsmall).trans_le hone

theorem ellipse_eq_circle_of_two_pow {n : ℕ} (hdx : value? (ofInteger px - ofInteger x) = some a)
    (hdy : value? (ofInteger py - ofInteger y) = some b) (ha : IsLength a) (hb : IsLength b)
    (hr : r.toInt = 2 ^ n) :
    (ellipse x y r r).contains px py = (circle x y r).contains px py := by
  have hpos : 0 < r := Int64.lt_iff_toInt_lt.2 (by rw [hr]; exact pow_pos two_pos n)
  have hn : n < 63 := by
    have hlt := Int64.toInt_lt r
    rw [hr] at hlt
    exact (pow_lt_pow_iff_right₀ one_lt_two).1 hlt
  obtain ⟨-, -, hround⟩ := exists_rounds_ofInteger r
  obtain ⟨w, hw⟩ := exists_value_two_pow (show n ≤ 971 by omega)
  rw [hr, Int.cast_pow, Int.cast_ofNat] at hround
  rw [Bool.eq_iff_iff, contains_circle_iff, contains_ellipse_iff hpos]
  exact quotients_le_iff_squares_le hdx hdy ha hb (hround.value?_eq hw) (by omega)

/-- Integers of few digits are `Measured` exactly. -/
theorem measured_of_small (hsmall : ∀ c ∈ [x, y, r, px, py], c.toInt.natAbs < 2 ^ 25) :
    Measured x y r px py ((px.toInt - x.toInt : ℤ) : ℚ) ((py.toInt - y.toInt : ℤ) : ℚ)
      (r.toInt : ℚ) := by
  simp only [List.forall_mem_cons] at hsmall
  obtain ⟨hx, hy, hr, hpx, hpy, -⟩ := hsmall
  exact ⟨value?_difference hpx hx, value?_difference hpy hy, value?_ofInteger (by omega)⟩

theorem contains_circle_iff_of_small
    (hsmall : ∀ c ∈ [x, y, r, px, py], c.toInt.natAbs < 2 ^ 25) : (circle x y r).contains px py ↔
      (px.toInt - x.toInt) ^ 2 + (py.toInt - y.toInt) ^ 2 ≤ r.toInt ^ 2 := by
  obtain ⟨hdx, hdy, hradius⟩ := measured_of_small hsmall
  simp only [List.forall_mem_cons] at hsmall
  obtain ⟨hx, hy, hr, hpx, hpy, -⟩ := hsmall
  rw [contains_circle_iff]
  exact squares_le_iff_of_int hdx hdy hradius (by omega) (by omega) (by omega)

/-- What is `Measured` has one value. -/
theorem Measured.unique {a' b' s' : ℚ} (h : Measured x y r px py a b s)
    (h' : Measured x y r px py a' b' s') : a = a' ∧ b = b' ∧ s = s' :=
  ⟨Option.some_inj.1 (h.horizontal.symm.trans h'.horizontal),
    Option.some_inj.1 (h.vertical.symm.trans h'.vertical),
    Option.some_inj.1 (h.radius.symm.trans h'.radius)⟩

theorem roundAreaLaws (x y r px py : Int64) : ∃ a b s, RoundAreaLaws x y r px py a b s := by
  obtain ⟨a, hdx, ha⟩ := exists_length px x
  obtain ⟨b, hdy, hb⟩ := exists_length py y
  obtain ⟨s, hradius, hs, hpos⟩ := exists_isLength_ofInteger r
  have hcircle (hfar : s ^ 2 / 2 ^ 50 < |a ^ 2 + b ^ 2 - s ^ 2|) :
      (circle x y r).contains px py ↔ a ^ 2 + b ^ 2 ≤ s ^ 2 := by
    rw [sq, sq, sq] at hfar ⊢
    exact contains_circle_iff.trans (squares_le_iff hdx hdy hradius ha hb hs hfar)
  have hellipse (hr : 0 < r) (hfar : s ^ 2 / 2 ^ 50 < |a ^ 2 + b ^ 2 - s ^ 2|) :
      (ellipse x y r r).contains px py ↔ a ^ 2 + b ^ 2 ≤ s ^ 2 := by
    rw [sq, sq, sq] at hfar ⊢
    exact (contains_ellipse_iff hr).trans
      (quotients_le_iff hdx hdy hradius ha hb hs hfar (hpos hr))
  refine ⟨a, b, s, ⟨hdx, hdy, hradius⟩, hcircle, hellipse, ?_, ?_, ?_, ?_, ?_, ?_⟩
  · exact fun n ↦ ellipse_eq_circle_of_two_pow hdx hdy ha hb
  · intro hsmall
    refine ⟨contains_circle_iff_of_small hsmall, fun hr hne ↦ ?_⟩
    obtain ⟨rfl, rfl, rfl⟩ := Measured.unique ⟨hdx, hdy, hradius⟩ (measured_of_small hsmall)
    have hfar := far_of_int (hsmall r (by simp)) hne
    rw [← sq, ← sq, ← sq] at hfar
    rw [Bool.eq_iff_iff, hellipse hr hfar, hcircle hfar]
  · intro hr
    exact if_pos (.inl hr)
  · rintro rfl rfl
    exact contains_circle_iff.2 (squares_le_of_zero hdx hdy hradius)
  · rintro rfl hcontains
    obtain rfl : s = 0 := Option.some_inj.1 (hradius.symm.trans (value?_ofInteger (by decide)))
    by_contra hne
    have hsum : 0 < a ^ 2 + b ^ 2 := by
      rcases not_and_or.1 hne with hne | hne
      · exact add_pos_of_pos_of_nonneg (sq_pos_of_ne_zero hne) (sq_nonneg b)
      · exact add_pos_of_nonneg_of_pos (sq_nonneg a) (sq_pos_of_ne_zero hne)
    rw [hcircle (by simpa using hsum.ne')] at hcontains
    linarith
  · rw [contains, contains, ofInteger_neg_mul_self]

/-- On the rim of radius thirteen the quotients are rounded to the outside, and a `circle` with a
negative radius is not empty. -/
theorem rim_lost_and_centre_kept :
    ((circle 0 0 13).contains 5 12 ∧ ¬(ellipse 0 0 13 13).contains 5 12) ∧
      (circle 0 0 (-1)).contains 0 0 ∧ ¬(ellipse 0 0 (-1) (-1)).contains 0 0 := by
  decide

end AssessmentItem.Area
