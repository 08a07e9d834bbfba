import Mathlib
import AssessmentItem.Binary64.Parts

/-!
# Exact values of floating-point numbers

A finite floating-point number stands for the rational number that its parts spell.  Comparison of
finite numbers is the comparison of their values, and infinities lie on either side of all of them.
The operations on floating-point numbers work on an unpacked form; its parts are those read off the
bits, and packing loses nothing as long as the significand and the exponent are in canonical form.

## Main definitions

* `Binary64.Parts.value`, `Binary64.value?` : the exact value of a finite number.
* `Binary64.Canonical` : the significands and exponents of finite numbers.
* `Binary64.unpackedParts?` : the parts of an unpacked number.

## Main results

* `Binary64.parts?_eq` : the bits and the unpacked form have the same parts.
* `Binary64.unpack_pack_finite` : packing loses nothing.
* `Binary64.le_iff`, `Binary64.lt_iff`, `Binary64.beq_iff` : comparison of finite numbers.
* `Binary64.exists_value_of_between` : what lies between finite numbers is finite.
* `Binary64.beq_iff_le_and_le` : numbers are equal if neither is greater.
-/

namespace AssessmentItem.Binary64

open Float.Model Float.Model.UnpackedFloat

/-- The exact number that the parts `p` spell. -/
def Parts.value (p : Parts) : ℚ :=
  (if p.negative then -1 else 1) * p.significand * 2 ^ p.exponent

/-- The exact value of `x`, if it is finite. -/
def value? (x : Float) : Option ℚ := (parts? x).map Parts.value

/-- A significand `m` has full length unless `e` is the least exponent. -/
structure Canonical (m : ℕ) (e : ℤ) : Prop where
  lt : m < 2 ^ 53
  le : -1074 ≤ e
  full : 2 ^ 52 ≤ m ∨ e = -1074

/-- Whether a sign is `.negative`. -/
def isNegative : Sign → Bool
  | .negative => true
  | .positive => false

/-- A magnitude with a sign. -/
def applySign : Sign → ℚ → ℚ
  | .negative, z => -z
  | .positive, z => z

/-- The parts of an unpacked number, if it is finite. -/
def unpackedParts? : UnpackedFloat → Option Parts
  | .zero s => some ⟨isNegative s, 0, -1074⟩
  | .finite s m e _ => some ⟨isNegative s, m, e⟩
  | .infinity _ | .notANumber => none

@[simp] theorem Parts.value_zero (b : Bool) (e : ℤ) : Parts.value ⟨b, 0, e⟩ = 0 := by
  simp [Parts.value]

theorem Parts.value_eq (s : Sign) (m : ℕ) (e : ℤ) :
    Parts.value ⟨isNegative s, m, e⟩ = applySign s (m * 2 ^ e) := by
  cases s <;> simp [Parts.value, isNegative, applySign]

theorem Parts.value_positive (m : ℕ) (e : ℤ) : Parts.value ⟨false, m, e⟩ = m * 2 ^ e :=
  Parts.value_eq .positive m e

/-! ### Bits and the unpacked form -/

theorem parts?_canonical {x : Float} {p : Parts} (h : parts? x = some p) :
    Canonical p.significand p.exponent ∧ p.exponent ≤ 971 := by
  simp only [parts?] at h
  split at h
  · nomatch h
  · split at h
    · cases h
      exact ⟨⟨by dsimp only; omega, le_rfl, .inr rfl⟩, by dsimp only; omega⟩
    · cases h
      refine ⟨⟨?_, ?_, .inl ?_⟩, ?_⟩ <;> simp only [Int.ofNat_eq_natCast] <;> omega

theorem toNat_unpackMantissa (b : BitVec 64) :
    (@unpackMantissa .binary64 b).toNat = b.toNat % 4503599627370496 := by
  simp [unpackMantissa]

theorem toNat_unpackExponent (b : BitVec 64) :
    (@unpackExponent .binary64 b).toNat = b.toNat / 4503599627370496 % 2048 := by
  simp [unpackExponent, Nat.shiftRight_eq_div_pow]

theorem toNat_unpackSign (b : BitVec 64) :
    (@unpackSign .binary64 b).toNat = b.toNat / 9223372036854775808 := by
  have hb := b.isLt
  simp only [unpackSign, BitVec.toNat_cast, BitVec.extractLsb_toNat, Nat.shiftRight_eq_div_pow]
  omega

theorem isNegative_ofBitVec (b : BitVec 1) : isNegative (.ofBitVec b) = decide (b.toNat = 1) := by
  revert b
  decide

/-- A significand with its leading bit `1#1` put back. -/
theorem toNat_one_append (b : BitVec 52) : (1#1 ++ b).toNat = 2 ^ 52 + b.toNat := by
  rw [BitVec.toNat_append, ← Nat.shiftLeft_add_eq_or_of_lt b.isLt]
  rfl

theorem parts?_eq (x : Float) : parts? x = unpackedParts? x.toModel.unpack := by
  change _ = unpackedParts? (UnpackedFloat.unpack .binary64 x.toBits.toBitVec)
  have hm := toNat_unpackMantissa x.toBits.toBitVec
  have he := toNat_unpackExponent x.toBits.toBitVec
  have hs : decide (9223372036854775808 ≤ x.toBits.toNat) =
      isNegative (.ofBitVec (@unpackSign .binary64 x.toBits.toBitVec)) := by
    have hb := x.toBits.toBitVec.isLt
    rw [isNegative_ofBitVec, toNat_unpackSign, decide_eq_decide, UInt64.toNat_toBitVec]
    rw [UInt64.toNat_toBitVec] at hb
    omega
  have hall : (-1#11).toNat = 2047 := rfl
  have hnone : (0#11).toNat = 0 := rfl
  have hzero : (0#52).toNat = 0 := rfl
  rw [UInt64.toNat_toBitVec] at hm he
  simp only [parts?, UnpackedFloat.unpack, ← hm, ← he, hs, ← BitVec.toNat_inj, hall, hnone, hzero]
  split_ifs with hfull hinfinity hempty hfraction
  · rfl
  · rfl
  · rw [hfraction]
    rfl
  · rw [hempty]
    rfl
  · rw [unpackedParts?, toNat_one_append]
    rfl

theorem isNegative_inj {s s' : Sign} : isNegative s = isNegative s' ↔ s = s' := by
  cases s <;> cases s' <;> simp [isNegative]

theorem eq_of_unpackedParts? {u w : UnpackedFloat} {p : Parts} (hu : unpackedParts? u = some p)
    (hw : unpackedParts? w = some p) : u = w := by
  have heq := hu.trans hw.symm
  cases u with
  | infinity | notANumber => nomatch hu
  | zero s =>
    cases w with
    | infinity | notANumber => nomatch hw
    | zero s' =>
      simp only [unpackedParts?, Option.some.injEq, Parts.mk.injEq, isNegative_inj] at heq
      rw [heq.1]
    | finite s' m e hm =>
      simp only [unpackedParts?, Option.some.injEq, Parts.mk.injEq] at heq
      exact absurd heq.2.1 hm.ne
  | finite s m e hm =>
    cases w with
    | infinity | notANumber => nomatch hw
    | zero s' =>
      simp only [unpackedParts?, Option.some.injEq, Parts.mk.injEq] at heq
      exact absurd heq.2.1 hm.ne'
    | finite s' n f hn =>
      simp only [unpackedParts?, Option.some.injEq, Parts.mk.injEq, isNegative_inj] at heq
      obtain ⟨rfl, rfl, rfl⟩ := heq
      rfl

theorem pack_unpack (x : Float) : .ofModel (.pack x.toModel.unpack) = x := x.ofBits_toBits

/-- A finite number is determined by `parts?`. -/
theorem eq_of_parts? {x y : Float} {p : Parts} (hx : parts? x = some p) (hy : parts? y = some p) :
    x = y := by
  rw [parts?_eq] at hx hy
  rw [← pack_unpack x, ← pack_unpack y, eq_of_unpackedParts? hx hy]

/-- There are two infinities and one number that is none. -/
theorem eq_of_parts?_eq_none {x : Float} (hx : parts? x = none) :
    x = 0 / 0 ∨ x = 1 / 0 ∨ x = -(1 / 0) := by
  rw [parts?_eq] at hx
  rw [← pack_unpack x]
  cases hu : x.toModel.unpack with
  | notANumber => exact .inl rfl
  | infinity s =>
    cases s with
    | positive => exact .inr (.inl rfl)
    | negative => exact .inr (.inr rfl)
  | zero | finite =>
    rw [hu] at hx
    nomatch hx

theorem value?_eq (x : Float) : value? x = (unpackedParts? x.toModel.unpack).map Parts.value := by
  rw [value?, parts?_eq]

theorem unpack_pack_infinity (s : Sign) :
    UnpackedFloat.unpack .binary64 (UnpackedFloat.pack .binary64 (.infinity s)) = .infinity s := by
  cases s <;> rfl

theorem unpack_pack_zero (s : Sign) :
    UnpackedFloat.unpack .binary64 (UnpackedFloat.pack .binary64 (.zero s)) = .zero s :=
  unpack_packedZero

theorem log2_add_one_eq_iff {m : ℕ} (hm : m < 2 ^ 53) : m.log2 + 1 = 53 ↔ 2 ^ 52 ≤ m := by
  rcases Nat.eq_zero_or_pos m with rfl | hpos
  · decide
  · have hle : 52 ≤ m.log2 ↔ 2 ^ 52 ≤ m := Nat.le_log2 hpos.ne'
    have hlt : m.log2 < 53 ↔ m < 2 ^ 53 := Nat.log2_lt hpos.ne'
    omega

theorem unpack_pack_finite (s : Sign) {m : ℕ} {e : ℤ} (hm : 0 < m) (h : Canonical m e)
    (he : e ≤ 971) :
    UnpackedFloat.unpack .binary64 (UnpackedFloat.pack .binary64 (.finite s m e hm)) =
      .finite s m e hm := by
  obtain ⟨hlt, hle, hfull⟩ := h
  have hbias : (Format.binary64.exponentBias : ℤ) = 1023 := rfl
  have hbits : Format.binary64.mantissaBits = 53 := rfl
  rw [UnpackedFloat.pack]
  simp only [hbits, log2_add_one_eq_iff hlt, hbias]
  rw [if_neg (by omega)]
  split_ifs with hbig <;>
    simp only [UnpackedFloat.unpack, unpackExponent_packComponents, unpackMantissa_packComponents,
      unpackSign_packComponents, Sign.ofBitVec_toBitVec, hbias, ← BitVec.toNat_inj,
      BitVec.toNat_ofNat]
  · have hall : (-1#11).toNat = 2047 := rfl
    rw [if_neg (by omega), if_neg (by omega)]
    congr 1
    · rw [toNat_one_append, BitVec.toNat_ofNat]
      omega
    · omega
  · rw [if_neg (by decide), if_pos trivial, dif_neg (by omega)]
    congr 1 <;> omega

theorem unpack_pack {u : UnpackedFloat} {p : Parts} (hu : unpackedParts? u = some p)
    (hp : Canonical p.significand p.exponent) (he : p.exponent ≤ 971) :
    (Float.Model.pack u).unpack = u := by
  cases u with
  | infinity | notANumber => nomatch hu
  | zero s => exact unpack_pack_zero s
  | finite s m e hm =>
    cases hu
    exact unpack_pack_finite s hm hp he

/-- The result of `pack` is an infinity where the exponent is too great. -/
theorem unpack_pack_overflow {u : UnpackedFloat} {s : Sign} {m : ℕ} {e : ℤ}
    (hu : unpackedParts? u = some ⟨isNegative s, m, e⟩) (he : 971 < e) :
    (Float.Model.pack u).unpack = .infinity s := by
  cases u with
  | infinity | notANumber => nomatch hu
  | zero =>
    obtain ⟨-, -, rfl⟩ := Parts.mk.inj (Option.some_inj.1 hu)
    exact absurd he (by decide)
  | finite t m e hm =>
    obtain ⟨hsign, rfl, rfl⟩ := Parts.mk.inj (Option.some_inj.1 hu)
    obtain rfl : t = s := by
      cases s <;> cases t <;> first | rfl | nomatch hsign
    have hbias : (Format.binary64.exponentBias : ℤ) = 1023 := rfl
    have hpack : UnpackedFloat.pack .binary64 (.finite t m e hm) = packedInfinity .binary64 t := by
      rw [UnpackedFloat.pack]
      simp only [hbias]
      rw [if_pos (by omega)]
    change UnpackedFloat.unpack .binary64 (UnpackedFloat.pack .binary64 _) = _
    rw [hpack]
    exact unpack_pack_infinity t

theorem value?_pack {u : UnpackedFloat} {p : Parts} (hu : unpackedParts? u = some p)
    (hp : Canonical p.significand p.exponent) (he : p.exponent ≤ 971) :
    value? (.ofModel (.pack u)) = some p.value := by
  rw [value?_eq, unpack_pack hu hp he, hu]
  rfl

theorem unpack_cases {x : Float} {a : ℚ} (hx : value? x = some a) :
    (∃ s, x.toModel.unpack = .zero s ∧ a = 0) ∨
      ∃ s m e hm, x.toModel.unpack = .finite s m e hm ∧ Canonical m e ∧
        a = applySign s (m * 2 ^ e) := by
  obtain ⟨p, hp, rfl⟩ := Option.map_eq_some_iff.1 hx
  have hcanonical := (parts?_canonical hp).1
  rw [parts?_eq] at hp
  cases hu : x.toModel.unpack with
  | infinity | notANumber =>
    rw [hu] at hp
    nomatch hp
  | zero s =>
    rw [hu] at hp
    cases hp
    exact .inl ⟨s, rfl, Parts.value_zero _ _⟩
  | finite s m e hm =>
    rw [hu] at hp
    cases hp
    exact .inr ⟨s, m, e, hm, rfl, hcanonical, Parts.value_eq s m e⟩

theorem unpack_of_value?_eq_none {x : Float} (hx : value? x = none) :
    x.toModel.unpack = .notANumber ∨ ∃ s, x.toModel.unpack = .infinity s := by
  rw [value?_eq, Option.map_eq_none_iff] at hx
  cases hu : x.toModel.unpack with
  | notANumber => exact .inl rfl
  | infinity s => exact .inr ⟨s, rfl⟩
  | zero | finite =>
    rw [hu] at hx
    nomatch hx

theorem exists_value_of_isFinite {x : Float} (h : x.isFinite) : ∃ a, value? x = some a := by
  cases hx : value? x with
  | some a => exact ⟨a, rfl⟩
  | none =>
    change x.toModel.unpack.isFinite = true at h
    obtain hu | ⟨s, hu⟩ := unpack_of_value?_eq_none hx <;> rw [hu] at h <;> nomatch h

/-! ### Comparison -/

/-- A significand of full length outweighs every exponent below `f`. -/
theorem mul_zpow_lt {m n : ℕ} {e f : ℤ} (hm : m < 2 ^ 53) (hn : 2 ^ 52 ≤ n) (hef : e < f) :
    (m : ℚ) * 2 ^ e < n * 2 ^ f := by
  have hm : (m : ℚ) < 2 ^ 53 := mod_cast hm
  have hn : (2 : ℚ) ^ 52 ≤ n := mod_cast hn
  calc (m : ℚ) * 2 ^ e < 2 ^ 53 * 2 ^ e := by gcongr
    _ = 2 ^ 52 * 2 ^ (e + 1) := by rw [zpow_add_one₀ two_ne_zero]; ring
    _ ≤ n * 2 ^ f := by
      gcongr
      · norm_num
      · exact hef

theorem compare_magnitude {m n : ℕ} {e f : ℤ} (hm : Canonical m e) (hn : Canonical n f) :
    (compare e f).then (compare m n) = compare ((m : ℚ) * 2 ^ e) (n * 2 ^ f) := by
  rcases lt_trichotomy e f with hlt | rfl | hgt
  · have hbig : 2 ^ 52 ≤ n := hn.full.resolve_right fun h ↦ absurd hm.le (by omega)
    rw [compare_lt_iff_lt.2 hlt, compare_lt_iff_lt.2 (mul_zpow_lt hm.lt hbig hlt)]
    rfl
  · have hpos : (0 : ℚ) < 2 ^ e := zpow_pos two_pos e
    rw [compare_eq_iff_eq.2 rfl]
    change compare m n = _
    rcases lt_trichotomy m n with hlt | rfl | hgt
    · rw [compare_lt_iff_lt.2 hlt, compare_lt_iff_lt.2]
      gcongr
    · rw [compare_eq_iff_eq.2 rfl, compare_eq_iff_eq.2 rfl]
    · rw [compare_gt_iff_gt.2 hgt, compare_gt_iff_gt.2]
      gcongr
  · have hbig : 2 ^ 52 ≤ m := hm.full.resolve_right fun h ↦ absurd hn.le (by omega)
    rw [compare_gt_iff_gt.2 hgt, compare_gt_iff_gt.2 (mul_zpow_lt hn.lt hbig hgt)]
    rfl

theorem compare_neg_neg (a b : ℚ) : compare (-a) (-b) = (compare a b).swap := by
  rcases lt_trichotomy a b with h | rfl | h
  · rw [compare_lt_iff_lt.2 h, compare_gt_iff_gt.2 (neg_lt_neg h)]
    rfl
  · rw [compare_eq_iff_eq.2 rfl, compare_eq_iff_eq.2 rfl]
    rfl
  · rw [compare_gt_iff_gt.2 h, compare_lt_iff_lt.2 (neg_lt_neg h)]
    rfl

theorem compare_unpacked {u w : UnpackedFloat} {p q : Parts} (hu : unpackedParts? u = some p)
    (hw : unpackedParts? w = some q) (hp : Canonical p.significand p.exponent)
    (hq : Canonical q.significand q.exponent) : u.compare w = some (compare p.value q.value) := by
  have hpos {m : ℕ} (hm : 0 < m) (e : ℤ) : (0 : ℚ) < m * 2 ^ e := by positivity
  have hneg {m : ℕ} (hm : 0 < m) (e : ℤ) : -((m : ℚ) * 2 ^ e) < 0 := neg_lt_zero.2 (hpos hm e)
  cases u with
  | infinity | notANumber => nomatch hu
  | zero =>
    cases w with
    | infinity | notANumber => nomatch hw
    | zero =>
      cases hu
      cases hw
      rw [Parts.value_zero, Parts.value_zero, compare_eq_iff_eq.2 rfl]
      rfl
    | finite t n f hn =>
      cases hu
      cases hw
      rw [Parts.value_zero, Parts.value_eq]
      cases t with
      | positive => exact congrArg some (compare_lt_iff_lt.2 (hpos hn f)).symm
      | negative => exact congrArg some (compare_gt_iff_gt.2 (hneg hn f)).symm
  | finite s m e hm =>
    cases w with
    | infinity | notANumber => nomatch hw
    | zero =>
      cases hu
      cases hw
      rw [Parts.value_zero, Parts.value_eq]
      cases s with
      | positive => exact congrArg some (compare_gt_iff_gt.2 (hpos hm e)).symm
      | negative => exact congrArg some (compare_lt_iff_lt.2 (hneg hm e)).symm
    | finite t n f hn =>
      cases hu
      cases hw
      rw [Parts.value_eq, Parts.value_eq]
      cases s <;> cases t
      · have hswap := congrArg Ordering.swap (compare_magnitude hp hq)
        exact congrArg some (hswap.trans (compare_neg_neg _ _).symm)
      · exact congrArg some (compare_lt_iff_lt.2 ((hneg hm e).trans (hpos hn f))).symm
      · exact congrArg some (compare_gt_iff_gt.2 ((hneg hn f).trans (hpos hm e))).symm
      · exact congrArg some (compare_magnitude hp hq)

variable {x y w : Float} {a b : ℚ}

theorem le_iff_compare : x ≤ y ↔ (x.toModel.unpack.compare y.toModel.unpack).any (·.isLE) := by
  change decide _ = true ↔ _
  exact decide_eq_true_iff

theorem lt_iff_compare : x < y ↔ x.toModel.unpack.compare y.toModel.unpack = some .lt := by
  change decide _ = true ↔ _
  exact decide_eq_true_iff.trans beq_iff_eq

theorem compare_unpack (hx : value? x = some a) (hy : value? y = some b) :
    x.toModel.unpack.compare y.toModel.unpack = some (compare a b) := by
  obtain ⟨p, hp, rfl⟩ := Option.map_eq_some_iff.1 hx
  obtain ⟨q, hq, rfl⟩ := Option.map_eq_some_iff.1 hy
  exact compare_unpacked (parts?_eq x ▸ hp) (parts?_eq y ▸ hq) (parts?_canonical hp).1
    (parts?_canonical hq).1

theorem le_iff (hx : value? x = some a) (hy : value? y = some b) : x ≤ y ↔ a ≤ b := by
  rw [le_iff_compare, compare_unpack hx hy]
  exact Ordering.isLE_iff_ne_gt.trans (compare_gt_iff_gt.not.trans not_lt)

theorem lt_iff (hx : value? x = some a) (hy : value? y = some b) : x < y ↔ a < b := by
  rw [lt_iff_compare, compare_unpack hx hy, Option.some_inj, compare_lt_iff_lt]

theorem beq_iff (hx : value? x = some a) (hy : value? y = some b) : x == y ↔ a = b := by
  change (x.toModel.unpack.compare y.toModel.unpack == some .eq) = true ↔ _
  rw [compare_unpack hx hy, beq_iff_eq, Option.some_inj, compare_eq_iff_eq]

/-! ### Infinities -/

theorem compare_infinity (hx : value? x = some a) (s : Sign) :
    x.toModel.unpack.compare (.infinity s) = some (if isNegative s then .gt else .lt) ∧
      UnpackedFloat.compare (.infinity s) x.toModel.unpack =
        some (if isNegative s then .lt else .gt) := by
  obtain ⟨t, hu, -⟩ | ⟨t, m, e, hm, hu, -⟩ := unpack_cases hx <;> rw [hu] <;> cases s <;>
    exact ⟨rfl, rfl⟩

theorem exists_value_of_between (hx : value? x = some a) (hy : value? y = some b) (hxw : x ≤ w)
    (hwy : w ≤ y) : ∃ c, value? w = some c ∧ a ≤ c ∧ c ≤ b := by
  cases h : value? w with
  | some c => exact ⟨c, rfl, (le_iff hx h).1 hxw, (le_iff h hy).1 hwy⟩
  | none =>
    rw [le_iff_compare] at hxw hwy
    obtain hw | ⟨s, hw⟩ := unpack_of_value?_eq_none h
    · rw [hw] at hwy
      nomatch hwy
    · rw [hw, (compare_infinity hx s).1] at hxw
      rw [hw, (compare_infinity hy s).2] at hwy
      cases s with
      | positive => nomatch hwy
      | negative => nomatch hxw

theorem value?_of_beq (hy : value? y = some b) (h : x == y) : value? x = some b := by
  cases hx : value? x with
  | some a => rw [(beq_iff hx hy).1 h]
  | none =>
    have hcompare : x.toModel.unpack.compare y.toModel.unpack = some .eq := beq_iff_eq.1 h
    obtain hu | ⟨s, hu⟩ := unpack_of_value?_eq_none hx
    · rw [hu] at hcompare
      nomatch hcompare
    · rw [hu, (compare_infinity hy s).2] at hcompare
      cases s <;> nomatch hcompare

theorem beq_iff_le_and_le (hy : value? y = some b) : x == y ↔ x ≤ y ∧ y ≤ x := by
  constructor
  · intro h
    have hx := value?_of_beq hy h
    exact ⟨(le_iff hx hy).2 le_rfl, (le_iff hy hx).2 le_rfl⟩
  · rintro ⟨hxy, hyx⟩
    obtain ⟨a, ha, hle, hge⟩ := exists_value_of_between hy hy hyx hxy
    exact (beq_iff ha hy).2 (le_antisymm hge hle)

end AssessmentItem.Binary64
