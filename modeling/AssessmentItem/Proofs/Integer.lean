import Mathlib.Data.Rat.Floor
import Mathlib.Tactic.Linarith
import AssessmentItem.Integer

/-!
# Laws of the integers of 64 bits

The quotient of two integers is the greatest integer that is not above the exact one.  It fits
unless it is the magnitude of the smallest integer.  What is left over always fits, but it is found
through the multiple of the divisor that is taken away, and that may not fit.  The Euclidean
algorithm ends with the greatest common divisor, and every remainder on the way fits.  The least
common multiple of two integers is found exactly if it fits.  A total that is formed step by step is
the exact one, and it is there exactly if every total on the way to it fits.

## Main definitions

* `Integer.InRange` : the exact integers of 64 bits.
* `Integer.EuclidStep`, `Integer.EuclidInvariant` : the rounds of the Euclidean algorithm.
* `Integer.EuclidLaws` : how the greatest common divisor of two integers is found.

## Main results

* `Integer.floorDiv?_eq` : the quotient is the floor of the exact one.
* `Integer.exists_floorMod?`, `Integer.floorMod?_eq_none` : when the remainder is found.
* `Integer.wellFounded_euclidStep`, `Integer.EuclidInvariant.exists_euclid?` : the Euclidean
  algorithm ends, and with the common divisor.
* `Integer.gcd?_eq`, `Integer.lcm?_eq` : common divisors and multiples are exact.
* `Integer.exists_foldlM_fit?`, `Integer.foldlM_fit?_eq_none` : when a total is found.
-/

namespace AssessmentItem.Integer

/-! ### The range -/

/-- The exact integers of 64 bits. -/
def InRange (n : ℤ) : Prop := -9223372036854775808 ≤ n ∧ n < 9223372036854775808

instance (n : ℤ) : Decidable (InRange n) := inferInstanceAs (Decidable (_ ∧ _))

theorem inRange_toInt (a : Int64) : InRange a.toInt := ⟨a.le_toInt, a.toInt_lt⟩

theorem exists_fit? {n : ℤ} (h : InRange n) : ∃ a, fit? n = some a ∧ a.toInt = n :=
  ⟨Int64.ofInt n, if_pos h, Int64.toInt_ofInt_of_le h.1 h.2⟩

theorem fit?_eq_none_iff {n : ℤ} : fit? n = none ↔ ¬InRange n := by
  unfold fit? InRange
  split <;> simp_all

/-! ### Division towards negative infinity -/

section Division

/-- The remainder `x.fmod y` has the sign of the divisor and a smaller magnitude. -/
theorem fmod_bounds (x : ℤ) {y : ℤ} (hy : y ≠ 0) :
    (0 < y ∧ 0 ≤ x.fmod y ∧ x.fmod y < y) ∨ (y < 0 ∧ y < x.fmod y ∧ x.fmod y ≤ 0) := by
  obtain hneg | hpos := lt_or_gt_of_ne hy
  · have hnonneg := Int.fmod_nonneg_of_pos (-x) (neg_pos.2 hneg)
    have hlt := Int.fmod_lt_of_pos (-x) (neg_pos.2 hneg)
    rw [Int.neg_fmod_neg] at hnonneg hlt
    exact .inr ⟨hneg, by omega, by omega⟩
  · exact .inl ⟨hpos, Int.fmod_nonneg_of_pos x hpos, Int.fmod_lt_of_pos x hpos⟩

theorem floor_div_eq_fdiv (x : ℤ) {y : ℤ} (hy : y ≠ 0) : ⌊(x : ℚ) / y⌋ = x.fdiv y := by
  have hsum : (y : ℚ) * x.fdiv y + x.fmod y = x := mod_cast Int.mul_fdiv_add_fmod x y
  rw [Int.floor_eq_iff]
  obtain ⟨hpos, hnonneg, hlt⟩ | ⟨hneg, hlt, hnonpos⟩ := fmod_bounds x hy
  · have hpos : (0 : ℚ) < y := mod_cast hpos
    have hnonneg : (0 : ℚ) ≤ x.fmod y := mod_cast hnonneg
    have hlt : (x.fmod y : ℚ) < y := mod_cast hlt
    rw [le_div_iff₀ hpos, div_lt_iff₀ hpos]
    constructor <;> linarith
  · have hneg : (y : ℚ) < 0 := mod_cast hneg
    have hnonpos : (x.fmod y : ℚ) ≤ 0 := mod_cast hnonpos
    have hlt : (y : ℚ) < x.fmod y := mod_cast hlt
    rw [le_div_iff_of_neg hneg, div_lt_iff_of_neg hneg]
    constructor <;> linarith

/-- What is left over is smaller than the divisor and, if it is not zero, has its sign. -/
theorem leftover_bounds (x : ℤ) {y : ℤ} (hy : y ≠ 0) :
    |x - y * ⌊(x : ℚ) / y⌋| < |y| ∧
      (x - y * ⌊(x : ℚ) / y⌋ = 0 ∨ (x - y * ⌊(x : ℚ) / y⌋).sign = y.sign) := by
  rw [floor_div_eq_fdiv x hy, ← Int.fmod_def]
  obtain ⟨hpos, hnonneg, hlt⟩ | ⟨hneg, hlt, hnonpos⟩ := fmod_bounds x hy
  · rw [abs_of_nonneg hnonneg, abs_of_pos hpos, Int.sign_eq_one_of_pos hpos]
    exact ⟨hlt, hnonneg.eq_or_lt.imp Eq.symm Int.sign_eq_one_of_pos⟩
  · rw [abs_of_nonpos hnonpos, abs_of_neg hneg, Int.sign_eq_neg_one_of_neg hneg]
    exact ⟨neg_lt_neg hlt, hnonpos.eq_or_lt.imp id Int.sign_eq_neg_one_of_neg⟩

/-- The quotient `x.fdiv y` towards negative infinity from the one towards zero. -/
theorem fdiv_eq_of_tdiv (x : ℤ) {y : ℤ} (hy : y ≠ 0) :
    x.fdiv y = if x.tmod y ≠ 0 ∧ (x < 0 ↔ ¬y < 0) then x.tdiv y - 1 else x.tdiv y := by
  simp only [Int.fdiv_eq_tdiv, Int.dvd_iff_tmod_eq_zero]
  obtain hneg | hpos := lt_or_gt_of_ne hy
  · have hsign : y.sign = -1 := Int.sign_eq_neg_one_of_neg hneg
    grind
  · have hsign : y.sign = 1 := Int.sign_eq_one_of_pos hpos
    grind

variable {x y : Int64}

theorem toInt_ne_zero (hy : y ≠ 0) : y.toInt ≠ 0 := by
  rwa [ne_eq, ← Int64.toInt_zero, Int64.toInt_inj]

/-- The quotient towards zero is `InRange` where something is left over, and so is the number
below. -/
theorem inRange_tdiv (hy : y ≠ 0) (h : x.toInt.tmod y.toInt ≠ 0) :
    InRange (x.toInt.tdiv y.toInt) ∧ InRange (x.toInt.tdiv y.toInt - 1) := by
  have hzero := toInt_ne_zero hy
  have htwo : 2 ≤ y.toInt.natAbs := by
    by_contra hlt
    obtain hone | hone : y.toInt = 1 ∨ y.toInt = -1 := by omega
    · simp [hone] at h
    · simp [hone] at h
  have hlo := x.le_toInt
  have hhi := x.toInt_lt
  have habs : (x.toInt.tdiv y.toInt).natAbs * 2 ≤ x.toInt.natAbs := by
    rw [Int.natAbs_tdiv]
    exact (Nat.mul_le_mul_left _ htwo).trans (Nat.div_mul_le_self _ _)
  unfold InRange
  omega

/-- With `floorDiv?` the quotient is the greatest integer that is not above the exact one, if that
fits. -/
theorem floorDiv?_eq (x : Int64) (hy : y ≠ 0) :
    floorDiv? x y = fit? ⌊(x.toInt : ℚ) / y.toInt⌋ := by
  rw [floor_div_eq_fdiv _ (toInt_ne_zero hy), fdiv_eq_of_tdiv _ (toInt_ne_zero hy), floorDiv?, div?,
    if_neg hy]
  simp only [Int64.lt_iff_toInt_lt, Int64.toInt_zero]
  split
  · rename_i hleft
    obtain ⟨q, hq, hvalue⟩ := exists_fit? (inRange_tdiv hy hleft.1).1
    rw [hq, ← hvalue]
    rfl
  · cases fit? (x.toInt.tdiv y.toInt) <;> rfl

/-- The quotient is `InRange` unless it is the magnitude of `Int64.minValue`. -/
theorem inRange_floor_div (hy : y ≠ 0) (hxy : ¬(x = Int64.minValue ∧ y = -1)) :
    InRange ⌊(x.toInt : ℚ) / y.toInt⌋ := by
  have hzero := toInt_ne_zero hy
  rw [floor_div_eq_fdiv _ hzero, fdiv_eq_of_tdiv _ hzero]
  split
  · rename_i hleft
    exact (inRange_tdiv hy hleft.1).2
  · by_cases hleft : x.toInt.tmod y.toInt = 0
    · have hlo := x.le_toInt
      have hhi := x.toInt_lt
      have habs := Int.natAbs_tdiv_le_natAbs x.toInt y.toInt
      have hprod := Int.mul_tdiv_add_tmod x.toInt y.toInt
      have hmin : ¬(x.toInt = -9223372036854775808 ∧ y.toInt = -1) := by
        rintro ⟨hx, hone⟩
        exact hxy ⟨Int64.toInt_inj.1 hx, Int64.toInt_inj.1 hone⟩
      -- the only quotient that could be too great is the magnitude of the smallest integer
      have hmax : x.toInt.tdiv y.toInt ≠ 9223372036854775808 := by
        intro hmax
        rw [hmax] at hprod
        omega
      unfold InRange
      omega
    · exact (inRange_tdiv hy hleft).1

/-- A remainder is what `floorMod?` finds where the quotient `q` fits and the multiple that is taken
away does. -/
theorem exists_floorMod? (hy : y ≠ 0) {q : ℤ} (hq : ⌊(x.toInt : ℚ) / y.toInt⌋ = q)
    (hquotient : InRange q) (hmultiple : InRange (y.toInt * q)) :
    ∃ r, floorMod? x y = some r ∧ r.toInt = x.toInt - y.toInt * q := by
  obtain ⟨q', hq', rfl⟩ := exists_fit? hquotient
  obtain ⟨m, hm, hmvalue⟩ := exists_fit? hmultiple
  have hbound := (leftover_bounds x.toInt (toInt_ne_zero hy)).1
  rw [hq, Int.abs_eq_natAbs, Int.abs_eq_natAbs] at hbound
  have hrange : InRange (x.toInt - y.toInt * q'.toInt) := by
    have hlo := y.le_toInt
    have hhi := y.toInt_lt
    unfold InRange
    omega
  obtain ⟨r, hr, hrvalue⟩ := exists_fit? hrange
  refine ⟨r, ?_, hrvalue⟩
  rw [floorMod?, floorDiv?_eq x hy, hq, hq', ← hr, ← hmvalue]
  change (mul? y q').bind _ = _
  rw [mul?, hm]
  rfl

/-- No remainder is what `floorMod?` finds where the multiple that is to be taken away does not
fit. -/
theorem floorMod?_eq_none (hy : y ≠ 0) {q : ℤ} (hq : ⌊(x.toInt : ℚ) / y.toInt⌋ = q)
    (hquotient : InRange q) (hmultiple : ¬InRange (y.toInt * q)) : floorMod? x y = none := by
  obtain ⟨q', hq', rfl⟩ := exists_fit? hquotient
  rw [floorMod?, floorDiv?_eq x hy, hq, hq']
  change (mul? y q').bind _ = _
  rw [mul?, fit?_eq_none_iff.2 hmultiple]
  rfl

end Division

/-! ### Common divisors and multiples -/

theorem bind_of_eq_some {α β : Type} {o : Option α} {f : α → Option β} {a : α} (h : o = some a) :
    (o >>= f) = f a := by
  rw [h]
  rfl

theorem bind_of_eq_none {α β : Type} {o : Option α} {f : α → Option β} (h : o = none) :
    (o >>= f) = none := by
  rw [h]
  rfl

theorem exists_abs? {a : Int64} (h : a.toInt.natAbs < 2 ^ 63) :
    ∃ n, abs? a = some n ∧ n.toInt = a.toInt.natAbs :=
  exists_fit? ⟨by omega, by omega⟩

theorem abs?_eq_none {a : Int64} (h : 2 ^ 63 ≤ a.toInt.natAbs) : abs? a = none :=
  fit?_eq_none_iff.2 fun hrange ↦ by
    have hhigh := hrange.2
    omega

theorem natAbs_lt_iff {a : Int64} : a.toInt.natAbs < 2 ^ 63 ↔ a ≠ Int64.minValue := by
  have hmin : Int64.minValue.toInt = -9223372036854775808 := rfl
  have hlo := a.le_toInt
  have hhi := a.toInt_lt
  rw [ne_eq, ← Int64.toInt_inj, hmin]
  omega

section Euclid

variable {a b : Int64} {p q : Int64 × Int64} {d : ℕ}

/-- One round of the Euclidean algorithm: the divisor and what it leaves over come next. -/
structure EuclidStep (p q : Int64 × Int64) : Prop where
  ne_zero : p.2 ≠ 0
  divisor : q.1 = p.2
  rest : rem? p.1 p.2 = some q.2

/-- What the Euclidean algorithm keeps: numbers that are not negative, and their common divisor
`d`. -/
structure EuclidInvariant (d : ℕ) (p : Int64 × Int64) : Prop where
  nonneg : 0 ≤ p.1.toInt
  nonneg_divisor : 0 ≤ p.2.toInt
  gcd_eq : Int.gcd p.1.toInt p.2.toInt = d

/-- Every run of the Euclidean algorithm ends. -/
theorem wellFounded_euclidStep : WellFounded fun q p ↦ EuclidStep p q :=
  Subrelation.wf (fun h ↦ natAbs_lt_of_rem? h.rest)
    (InvImage.wf (fun p : Int64 × Int64 ↦ p.2.toInt.natAbs) wellFounded_lt)

/-- Where neither number is negative `rem?` finds a remainder. -/
theorem exists_rem? (ha : 0 ≤ a.toInt) (hb : 0 ≤ b.toInt) (hzero : b ≠ 0) :
    ∃ r, rem? a b = some r ∧ r.toInt = a.toInt % b.toInt := by
  have hpos : 0 < b.toInt := hb.lt_of_ne' (toInt_ne_zero hzero)
  have hlt := Int.emod_lt_of_pos a.toInt hpos
  have hnonneg := Int.emod_nonneg a.toInt hpos.ne'
  have hquotient := Int.ediv_nonneg ha hb
  have hle := Int.ediv_le_self b.toInt ha
  have hhigh := a.toInt_lt
  have hhigh' := b.toInt_lt
  obtain ⟨m, hm, -⟩ := exists_fit? (n := a.toInt.tdiv b.toInt) <| by
    rw [Int.tdiv_eq_ediv_of_nonneg ha]
    exact ⟨by omega, by omega⟩
  obtain ⟨r, hr, hvalue⟩ := exists_fit? (n := a.toInt % b.toInt) ⟨by omega, by omega⟩
  refine ⟨r, ?_, hvalue⟩
  rw [rem?, div?, if_neg hzero, hm, Int.tmod_eq_emod_of_nonneg ha]
  exact hr

theorem EuclidInvariant.step (h : EuclidInvariant d p) (hstep : EuclidStep p q) :
    EuclidInvariant d q := by
  obtain ⟨r, hr, hvalue⟩ := exists_rem? h.nonneg h.nonneg_divisor hstep.ne_zero
  have hrest : q.2.toInt = p.1.toInt % p.2.toInt := by
    rw [← hvalue, Option.some.inj (hr.symm.trans hstep.rest)]
  refine ⟨?_, ?_, ?_⟩
  · rw [hstep.divisor]
    exact h.nonneg_divisor
  · rw [hrest]
    exact Int.emod_nonneg _ (toInt_ne_zero hstep.ne_zero)
  · rw [hstep.divisor, hrest, Int.gcd_comm, Int.gcd_emod]
    exact h.gcd_eq

theorem EuclidInvariant.reaches (h : EuclidInvariant d p)
    (hreach : Relation.ReflTransGen EuclidStep p q) : EuclidInvariant d q := by
  induction hreach with
  | refl => exact h
  | tail _ hstep ih => exact ih.step hstep

/-- With `euclid?` the Euclidean algorithm comes to the common divisor `d`. -/
theorem EuclidInvariant.exists_euclid? (h : EuclidInvariant d (a, b)) :
    ∃ g, euclid? a b = some g ∧ g.toInt = d := by
  fun_induction euclid? a b with
  | case1 a =>
    refine ⟨a, rfl, ?_⟩
    rw [← h.gcd_eq, Int64.toInt_zero, Int.gcd_zero_right]
    exact (Int.natAbs_of_nonneg h.nonneg).symm
  | case2 a b hb r hr ih => exact ih (h.step ⟨hb, rfl, hr⟩)
  | case3 a b hb hnone =>
    obtain ⟨r, hr, -⟩ := exists_rem? h.nonneg h.nonneg_divisor hb
    rw [hnone] at hr
    nomatch hr

/-- What `euclid?` comes to is reached by steps of `EuclidStep`. -/
theorem reaches_of_euclid? {g : Int64} (h : euclid? a b = some g) :
    Relation.ReflTransGen EuclidStep (a, b) (g, 0) := by
  fun_induction euclid? a b with
  | case1 a =>
    cases h
    exact .refl
  | case2 a b hb r hr ih => exact .head ⟨hb, rfl, hr⟩ (ih h)
  | case3 => nomatch h

end Euclid

/-- The Euclidean algorithm begins with magnitudes. -/
theorem euclidInvariant_abs {a b m n : Int64} (hm : m.toInt = a.toInt.natAbs)
    (hn : n.toInt = b.toInt.natAbs) : EuclidInvariant (Int.gcd a.toInt b.toInt) (m, n) where
  nonneg := hm ▸ Int.natCast_nonneg _
  nonneg_divisor := hn ▸ Int.natCast_nonneg _
  gcd_eq := by rw [hm, hn, Int.gcd, Int.gcd, Int.natAbs_natCast, Int.natAbs_natCast]

/-- The greatest common divisor that `gcd?` gives of integers that have magnitudes. -/
theorem exists_gcd? {a b : Int64} (ha : a.toInt.natAbs < 2 ^ 63) (hb : b.toInt.natAbs < 2 ^ 63) :
    ∃ g, gcd? a b = some g ∧ g.toInt = Int.gcd a.toInt b.toInt := by
  obtain ⟨m, hm, hmvalue⟩ := exists_abs? ha
  obtain ⟨n, hn, hnvalue⟩ := exists_abs? hb
  rw [gcd?, bind_of_eq_some hm, bind_of_eq_some hn]
  exact (euclidInvariant_abs hmvalue hnvalue).exists_euclid?

theorem gcd?_eq {a b : Int64} (ha : a.toInt.natAbs < 2 ^ 63) (hb : b.toInt.natAbs < 2 ^ 63) :
    gcd? a b = fit? (Int.gcd a.toInt b.toInt) := by
  obtain ⟨g, hg, hvalue⟩ := exists_gcd? ha hb
  rw [hg, ← hvalue, fit?_toInt]

theorem gcd?_eq_none {a b : Int64} (h : 2 ^ 63 ≤ a.toInt.natAbs ∨ 2 ^ 63 ≤ b.toInt.natAbs) :
    gcd? a b = none := by
  rw [gcd?]
  by_cases ha : a.toInt.natAbs < 2 ^ 63
  · obtain ⟨m, hm, -⟩ := exists_abs? ha
    rw [bind_of_eq_some hm, bind_of_eq_none (abs?_eq_none (by omega))]
  · rw [bind_of_eq_none (abs?_eq_none (by omega))]

/-- How `gcd?` finds the greatest common divisor of two integers. -/
structure EuclidLaws (a b : Int64) : Prop where
  terminates : WellFounded fun q p ↦ EuclidStep p q
  none_iff : gcd? a b = none ↔ a = Int64.minValue ∨ b = Int64.minValue
  /-- The magnitudes `m` and `n` fit, so does every remainder on the way, and the way leads to the
  divisor. -/
  run : a ≠ Int64.minValue → b ≠ Int64.minValue →
    ∃ m n g, abs? a = some m ∧ m.toInt = |a.toInt| ∧ abs? b = some n ∧ n.toInt = |b.toInt| ∧
      (∀ p, Relation.ReflTransGen EuclidStep (m, n) p → p.2 ≠ 0 →
        ∃ r, rem? p.1 p.2 = some r ∧ r.toInt = p.1.toInt % p.2.toInt) ∧
      Relation.ReflTransGen EuclidStep (m, n) (g, 0) ∧
      gcd? a b = some g ∧ g.toInt = Int.gcd a.toInt b.toInt

theorem euclidLaws (a b : Int64) : EuclidLaws a b where
  terminates := wellFounded_euclidStep
  none_iff := by
    constructor
    · intro h
      by_contra hmin
      rw [not_or] at hmin
      obtain ⟨g, hg, -⟩ := exists_gcd? (natAbs_lt_iff.2 hmin.1) (natAbs_lt_iff.2 hmin.2)
      rw [h] at hg
      nomatch hg
    · rintro (rfl | rfl)
      · exact gcd?_eq_none (.inl (by decide))
      · exact gcd?_eq_none (.inr (by decide))
  run ha hb := by
    obtain ⟨m, hm, hmvalue⟩ := exists_abs? (natAbs_lt_iff.2 ha)
    obtain ⟨n, hn, hnvalue⟩ := exists_abs? (natAbs_lt_iff.2 hb)
    have hinvariant := euclidInvariant_abs hmvalue hnvalue
    obtain ⟨g, hg, hvalue⟩ := hinvariant.exists_euclid?
    refine ⟨m, n, g, hm, ?_, hn, ?_, fun p hp hzero ↦ ?_, reaches_of_euclid? hg, ?_, hvalue⟩
    · rw [hmvalue, Int.abs_eq_natAbs]
    · rw [hnvalue, Int.abs_eq_natAbs]
    · have hreached := hinvariant.reaches hp
      exact exists_rem? hreached.nonneg hreached.nonneg_divisor hzero
    · rw [gcd?, bind_of_eq_some hm, bind_of_eq_some hn]
      exact hg

/-- The magnitude of one integer goes into a common multiple that is not zero. -/
theorem natAbs_le_lcm {a b : ℤ} (ha : a ≠ 0) (hb : b ≠ 0) :
    a.natAbs ≤ Int.lcm a b ∧ b.natAbs ≤ Int.lcm a b := by
  have hpos : 0 < Int.lcm a b := Int.lcm_pos ha hb
  exact ⟨Nat.le_of_dvd hpos (Nat.dvd_lcm_left ..), Nat.le_of_dvd hpos (Nat.dvd_lcm_right ..)⟩

theorem natAbs_div_gcd_mul (a b : ℤ) : (a / Int.gcd a b * b).natAbs = Int.lcm a b := by
  rw [Int.natAbs_mul, Int.natAbs_ediv_of_dvd (Int.gcd_dvd_left ..), Int.natAbs_natCast]
  exact Nat.div_mul_right_comm (Nat.gcd_dvd_left ..) _

/-- The magnitude of an exact integer `p` fits only if the integer itself does. -/
theorem bind_abs?_fit? (p : ℤ) : (fit? p >>= abs?) = fit? p.natAbs := by
  cases hp : fit? p with
  | some m =>
    rw [bind_of_eq_some rfl, abs?, fit?_eq_some_iff.1 hp]
  | none =>
    have hout : ¬InRange p := fit?_eq_none_iff.1 hp
    refine (fit?_eq_none_iff.2 fun hrange ↦ hout ?_).symm
    unfold InRange at *
    omega

/-- The least common multiple `lcm?` is exact. It fits unless it is too great: dividing before the
multiplication keeps what is in between from growing beyond it. -/
theorem lcm?_eq (a b : Int64) : lcm? a b = fit? (Int.lcm a.toInt b.toInt) := by
  by_cases hzero : a = 0 ∨ b = 0
  · rw [lcm?, if_pos hzero]
    obtain rfl | rfl := hzero
    · rw [Int64.toInt_zero, Int.lcm_zero_left]
      rfl
    · rw [Int64.toInt_zero, Int.lcm_zero_right]
      rfl
  · rw [lcm?, if_neg hzero]
    push Not at hzero
    obtain ⟨hle, hle'⟩ := natAbs_le_lcm (toInt_ne_zero hzero.1) (toInt_ne_zero hzero.2)
    by_cases hsmall : a.toInt.natAbs < 2 ^ 63 ∧ b.toInt.natAbs < 2 ^ 63
    · obtain ⟨ha, hb⟩ := hsmall
      have hgcd : (Int.gcd a.toInt b.toInt) ≤ a.toInt.natAbs :=
        Nat.le_of_dvd (Int.natAbs_pos.2 (toInt_ne_zero hzero.1)) (Nat.gcd_dvd_left ..)
      obtain ⟨g, hg, hvalue⟩ := exists_fit? (n := Int.gcd a.toInt b.toInt)
        ⟨by omega, by omega⟩
      rw [bind_of_eq_some ((gcd?_eq ha hb).trans hg), hvalue]
      rw [bind_abs?_fit?, natAbs_div_gcd_mul]
    · rw [bind_of_eq_none (gcd?_eq_none (by omega))]
      refine (fit?_eq_none_iff.2 fun hrange ↦ ?_).symm
      have hhigh := hrange.2
      omega

theorem lcm?_one (x : Int64) : lcm? 1 x = abs? x := by
  have hone : (1 : Int64).toInt = 1 := by decide
  have heq : fit? (Int.lcm (1 : Int64).toInt x.toInt) = fit? x.toInt.natAbs := by
    rw [hone, Int.lcm_one_left]
  exact (lcm?_eq 1 x).trans heq

/-! ### Totals that are formed step by step -/

section Totals

variable (f : ℤ → ℤ → ℤ)

/-- A total of `xs` is found where all totals on the way to it are `InRange`, and it is the exact
one. -/
theorem exists_foldlM_fit? : {xs : List Int64} → {start : Int64} →
    (∀ p, p <+: xs → InRange ((p.map Int64.toInt).foldl f start.toInt)) →
    ∃ n, xs.foldlM (fun a b ↦ fit? (f a.toInt b.toInt)) start = some n ∧
      n.toInt = (xs.map Int64.toInt).foldl f start.toInt
  | [], start, _ => ⟨start, rfl, rfl⟩
  | x :: xs, start, h => by
      obtain ⟨next, hnext, hvalue⟩ := exists_fit? (h [x] (List.prefix_append [x] xs))
      change next.toInt = f start.toInt x.toInt at hvalue
      have hrest (p : List Int64) (hp : p <+: xs) :
          InRange ((p.map Int64.toInt).foldl f next.toInt) := by
        rw [hvalue]
        exact h (x :: p) ((List.prefix_cons_inj x).2 hp)
      obtain ⟨n, hn, htotal⟩ := exists_foldlM_fit? hrest
      refine ⟨n, ?_, ?_⟩
      · rw [List.foldlM_cons]
        exact (congrArg (Option.bind · _) hnext).trans hn
      · rw [htotal, hvalue]
        rfl

/-- No total of `xs` is found where one on the way to it is not `InRange`. -/
theorem foldlM_fit?_eq_none : {xs : List Int64} → {start : Int64} →
    (∃ p, p <+: xs ∧ ¬InRange ((p.map Int64.toInt).foldl f start.toInt)) →
    xs.foldlM (fun a b ↦ fit? (f a.toInt b.toInt)) start = none
  | [], start, ⟨p, hp, hout⟩ => by
      rw [List.prefix_nil.1 hp] at hout
      exact absurd (inRange_toInt start) hout
  | x :: xs, start, ⟨p, hp, hout⟩ => by
      rw [List.foldlM_cons]
      change (fit? (f start.toInt x.toInt)).bind _ = none
      cases hnext : fit? (f start.toInt x.toInt) with
      | none => rfl
      | some next =>
        obtain rfl | ⟨p', rfl, hp'⟩ := List.prefix_cons_iff.1 hp
        · exact absurd (inRange_toInt start) hout
        · refine foldlM_fit?_eq_none ⟨p', hp', ?_⟩
          rw [fit?_eq_some_iff.1 hnext]
          exact hout

end Totals

end AssessmentItem.Integer
