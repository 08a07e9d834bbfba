import AssessmentItem.Binary64.Literal
import AssessmentItem.Binary64.Text
import AssessmentItem.Proofs.Binary64.Operations
import AssessmentItem.Proofs.Binary64.Shortest

/-!
# Decimal literals of floating-point numbers

A decimal literal is turned into the floating-point number nearest to what it denotes.  At most one
number is nearest, since of two neighbours as near as each other only one has an even significand.
So the shortest digits of a number, which have it as their nearest number, are read as it, wherever
their point is put.

## Main results

* `Binary64.Nearest.unique` : at most one number is nearest.
* `Binary64.parts?_ofScientific` : decimal numbers are turned into the nearest number.
* `Binary64.nearest_shortest_eq` : the shortest digits denote their number.
* `Binary64.read?_positional` : the plain form of a number is read as the number.
-/

namespace AssessmentItem.Binary64

open Float.Model Float.Model.UnpackedFloat

/-! ### One nearest number -/

section Unique

variable {m n : ℕ} {e f : ℤ} {z : ℚ}

/-- A number has one `Canonical` form. -/
theorem Canonical.unique (h : Canonical m e) (h' : Canonical n f)
    (heq : (m : ℚ) * 2 ^ e = n * 2 ^ f) : m = n ∧ e = f := by
  obtain rfl : e = f := by
    rcases lt_trichotomy e f with hlt | rfl | hgt
    · have hfull := h'.full.resolve_right (by have := h.le; omega)
      exact absurd heq (mul_zpow_lt h.lt hfull hlt).ne
    · rfl
    · have hfull := h.full.resolve_right (by have := h'.le; omega)
      exact absurd heq (mul_zpow_lt h'.lt hfull hgt).ne'
  have hpos : (2 : ℚ) ^ e ≠ 0 := by positivity
  exact ⟨by exact_mod_cast mul_right_cancel₀ hpos heq, rfl⟩

theorem Canonical.onGrid (h : Canonical m e) : OnGrid (m * 2 ^ e) :=
  ⟨m, e, by simpa using h.lt, h.le, by simp⟩

/-- Of two neighbours that are both `Nearest` one is odd. -/
theorem Nearest.not_value_lt (h : Canonical m e) (h' : Canonical n f) (hm : Nearest z ⟨false, m, e⟩)
    (hn : Nearest z ⟨false, n, f⟩) : ¬(m : ℚ) * 2 ^ e < n * 2 ^ f := by
  intro hlt
  have hvalue := Parts.value_positive m e
  have hvalue' := Parts.value_positive n f
  have hunit : (0 : ℚ) < 2 ^ e := by positivity
  -- The greater number is the one next to the less, and the exact one lies half way.
  have hnext : ((m : ℚ) + 1) * 2 ^ e ≤ n * 2 ^ f :=
    (h'.onGrid.le_or_le h.full).resolve_left hlt.not_ge
  have hnextGrid : OnGrid (((m : ℚ) + 1) * 2 ^ e) := by
    have hk : ((m + 1 : ℕ) : ℤ).natAbs ≤ 2 ^ 53 := h.lt
    exact_mod_cast onGrid_of_le hk h.le
  have hbelow := le_half_way (hvalue ▸ hm.le _ hnextGrid) (by linarith)
  have habove := half_way_le (hvalue' ▸ hn.le _ h.onGrid) hlt
  have heq : (n : ℚ) * 2 ^ f = (m + 1) * 2 ^ e := by linarith
  have hhalf : z - m * 2 ^ e = n * 2 ^ f - z := by linarith
  have hdist : |z - n * 2 ^ f| = |z - m * 2 ^ e| := by rw [hhalf, abs_sub_comm]
  have heven : Even m := hm.even _ h'.onGrid (hvalue ▸ hlt.ne') (by rw [hvalue, hdist])
  have heven' : Even n := hn.even _ h.onGrid (hvalue' ▸ hlt.ne) (by rw [hvalue', hdist])
  have hcanonical : Canonical (m + 1) e := by
    obtain ⟨k, hk⟩ := heven
    exact ⟨by have := h.lt; omega, h.le, h.full.imp_left fun hfull ↦ by omega⟩
  obtain ⟨rfl, -⟩ := h'.unique hcanonical (by rw [heq]; push_cast; rfl)
  exact Nat.not_even_iff_odd.2 heven.add_one heven'

theorem Nearest.unique (h : Canonical m e) (h' : Canonical n f) (hm : Nearest z ⟨false, m, e⟩)
    (hn : Nearest z ⟨false, n, f⟩) : m = n ∧ e = f :=
  h.unique h' (le_antisymm (not_lt.1 (hn.not_value_lt h' h hm))
    (not_lt.1 (hm.not_value_lt h h' hn)))

end Unique

/-! ### Decimal numbers -/

section Decimals

variable {m n : ℕ} {e t : ℤ} {x : Float}

/-- A number that `z` is rounded to has the parts of the `Nearest` one, if it is finite. -/
theorem Rounds.parts?_eq {z r : ℚ} (h : Rounds z x) (hx : value? x = some r)
    (hcanonical : Canonical m e) (hm : 0 < m) (hz : Nearest z ⟨false, m, e⟩) :
    parts? x = some ⟨false, m, e⟩ := by
  obtain ⟨⟨negative, n, f⟩, hp, -⟩ := Option.map_eq_some_iff.1 hx
  have hpos := pos_of_nearest hm hz
  have hnearest := h.nearest _ hp
  have habs := hnearest.abs
  rw [abs_of_pos hpos] at habs
  obtain ⟨rfl, rfl⟩ := hz.unique hcanonical (parts?_canonical hp).1 habs
  cases negative with
  | false => exact hp
  | true =>
    have hzero : OnGrid 0 := ⟨0, 0, by decide, by decide, by simp⟩
    have hle := (hnearest.sides hzero).1 hpos.le
    change 0 ≤ Parts.value ⟨isNegative .negative, m, e⟩ at hle
    rw [Parts.value_eq, applySign] at hle
    have hvalue : (0 : ℚ) < m * 2 ^ e := by positivity
    linarith

/-- The table `exactlyRepresentablePowersOfTen` is exact. -/
theorem value?_powersOfTen (k : Fin 23) :
    value? Float.exactlyRepresentablePowersOfTen[k] = some ((10 : ℚ) ^ (k : ℕ)) := by
  have hparts : ∀ k : Fin 23, ∃ p, parts? Float.exactlyRepresentablePowersOfTen[k] = some p ∧
      p.negative = false ∧ p.significand * 2 ^ p.exponent.toNat =
        10 ^ (k : ℕ) * 2 ^ (-p.exponent).toNat := by
    decide
  obtain ⟨⟨_, m, e⟩, hp, rfl, heq⟩ := hparts k
  rw [value?, hp, Option.map_some, Parts.value_positive, zpow_eq_div, ← mul_div_assoc]
  refine congrArg some ((div_eq_iff (by positivity)).2 ?_)
  exact_mod_cast heq

/-- A number `u` that is described is packed into the nearest one, unless that is too great. -/
theorem parts?_roundWithAccuracy {u : ℚ} {q : ℕ} {g : ℤ} {acc : Accuracy}
    (hu : Describes (.ofMantissaAndAccuracy q acc) u) (hg : g ≤ -1074 ∨ 2 ^ 52 ≤ q)
    (hcanonical : Canonical m e) (he : e ≤ 971) (hz : Nearest (u * 2 ^ g) ⟨false, m, e⟩) :
    parts? (.ofModel (.pack (roundWithAccuracy .binary64 .positive q g acc))) =
      some ⟨false, m, e⟩ := by
  obtain ⟨n, f, hn, hnearest, hparts⟩ := exists_parts_roundWithAccuracy .positive hu hg
  obtain ⟨rfl, rfl⟩ := hz.unique hcanonical hn hnearest
  rw [parts?_eq]
  change unpackedParts? (Float.Model.pack _).unpack = _
  rw [unpack_pack hparts hn he, hparts]
  rfl

section OfScientific

variable (hn : 0 < n) (hcanonical : Canonical m e) (hm : 0 < m)
  (hz : Nearest (n * 10 ^ t) ⟨false, m, e⟩)

include hcanonical hm hz in
/-- Where `n` and the power of ten are exact, `Float.ofScientific` rounds once. -/
theorem parts?_ofScientific_exact (hlt : n < 2 ^ 53) (ht : t.natAbs ≤ 22) :
    parts? (Float.ofScientific n (t < 0) t.natAbs) = some ⟨false, m, e⟩ := by
  have hvalue := value?_toFloat hlt
  have hpower := value?_powersOfTen ⟨t.natAbs, Nat.lt_succ_of_le ht⟩
  have hround : Rounds (n * 10 ^ t) (Float.ofScientific n (t < 0) t.natAbs) := by
    rw [Float.ofScientific, dif_pos ⟨hlt, ht⟩]
    rcases lt_or_ge t 0 with hneg | hnonneg
    · rw [if_pos (decide_eq_true hneg)]
      have hpow : (10 : ℚ) ^ t = (10 ^ t.natAbs)⁻¹ := by
        rw [← zpow_natCast, ← zpow_neg, Int.natCast_natAbs, abs_of_neg hneg, neg_neg]
      rw [hpow, ← div_eq_mul_inv]
      exact rounds_div hvalue hpower (by positivity)
    · rw [if_neg (by simpa using hnonneg)]
      have hpow : (10 : ℚ) ^ t = 10 ^ t.natAbs := by
        rw [← zpow_natCast, Int.natCast_natAbs, abs_of_nonneg hnonneg]
      rw [hpow]
      exact rounds_mul hvalue hpower
  obtain ⟨w, hw⟩ := exists_value_two_pow (show 127 ≤ 971 by decide)
  have hbound : (n : ℚ) * 10 ^ t ≤ 2 ^ 127 := by
    have hn : (n : ℚ) ≤ 2 ^ 53 := mod_cast hlt.le
    have hpow : (10 : ℚ) ^ t ≤ 10 ^ (22 : ℤ) := zpow_le_zpow_right₀ (by norm_num) (by omega)
    calc (n : ℚ) * 10 ^ t ≤ 2 ^ 53 * 10 ^ (22 : ℤ) := by gcongr
      _ ≤ 2 ^ 127 := by norm_num
  obtain ⟨r, hr, -⟩ := hround.exists_value value?_zero hw (by positivity) hbound
  exact hround.parts?_eq hr hcanonical hm hz

include hn hcanonical hz in
/-- A decimal number within the bounds is brought to a significand of full length. -/
theorem parts?_pack_ofScientific (he : e ≤ 971) (hlow : -(2 ^ 11 + n.log2) ≤ t)
    (hhigh : t ≤ 2 ^ 11) :
    parts? (.ofModel (.pack (UnpackedFloat.ofScientific .binary64 n t))) =
      some ⟨false, m, e⟩ := by
  have hbits : Format.binary64.mantissaBits = 53 := rfl
  rw [UnpackedFloat.ofScientific, dif_neg hn.ne', if_neg (by simpa using hhigh),
    if_neg (by simpa using hlow)]
  rcases le_or_gt 0 t with ht | ht
  · rw [if_pos ht]
    have hexact : (n : ℚ) * 10 ^ t = (n * 2 ^ 53 * 10 ^ t.toNat : ℕ) * 2 ^ (-53 : ℤ) := by
      lift t to ℕ using ht
      rw [Int.toNat_natCast, zpow_natCast, zpow_neg]
      push_cast
      field_simp
    rw [hexact] at hz
    simp only [UnpackedFloat.mul, hbits, add_zero, Nat.shiftLeft_eq]
    refine parts?_roundWithAccuracy (describes_exact _) (.inr ?_) hcanonical he hz
    have hpos : 0 < n * 10 ^ t.toNat := by positivity
    rw [mul_right_comm]
    omega
  · rw [if_neg ht.not_ge]
    have hpos : 0 < 10 ^ (-t).toNat := by positivity
    obtain ⟨k, hcore, hlarge⟩ := exists_divCore hn hpos 0 0
    have hexact : (n : ℚ) * 10 ^ t =
        ((n * 2 ^ k : ℕ) : ℚ) / (10 ^ (-t).toNat : ℕ) * 2 ^ ((0 : ℤ) - 0 - k) := by
      rw [div_mul_eq_mul_div, sub_zero, mul_pow_mul_zpow, zpow_zero, mul_one, zpow_eq_div,
        Int.toNat_of_nonpos ht.le, pow_zero, mul_one_div]
      push_cast
      rfl
    rw [hexact] at hz
    simp only [UnpackedFloat.div, hcore]
    exact parts?_roundWithAccuracy (describes_div _ hpos) hlarge hcanonical he hz

include hn hcanonical hm hz in
/-- The decimal number `n * 10 ^ t` is turned into the floating-point number nearest to it. -/
theorem parts?_ofScientific (he : e ≤ 971) (hlow : -(2 ^ 11 + n.log2) ≤ t) (hhigh : t ≤ 2 ^ 11) :
    parts? (Float.ofScientific n (t < 0) t.natAbs) = some ⟨false, m, e⟩ := by
  by_cases hsmall : n < 2 ^ 53 ∧ t.natAbs ≤ 22
  · exact parts?_ofScientific_exact hcanonical hm hz hsmall.1 hsmall.2
  · rw [Float.ofScientific, dif_neg hsmall]
    have hexponent : (if decide (t < 0) = true then Int.negOfNat t.natAbs
        else Int.ofNat t.natAbs) = t := by
      simp only [Int.negOfNat_eq, Int.ofNat_eq_natCast, decide_eq_true_eq]
      split <;> omega
    dsimp only
    rw [hexponent]
    exact parts?_pack_ofScientific hn hcanonical hz he hlow hhigh

end OfScientific

/-- Finite numbers are below `2 ^ 1024`. -/
theorem lt_two_zpow (hcanonical : Canonical m e) (he : e ≤ 971) :
    (m : ℚ) * 2 ^ e < 2 ^ (1024 : ℤ) :=
  calc (m : ℚ) * 2 ^ e < 2 ^ 53 * 2 ^ e := by
        gcongr
        exact_mod_cast hcanonical.lt
    _ ≤ 2 ^ 53 * 2 ^ (971 : ℤ) := by
        gcongr
        exact one_le_two
    _ = 2 ^ (1024 : ℤ) := by
        rw [← zpow_natCast, ← zpow_add₀ two_ne_zero]
        rfl

/-- Numbers other than zero are not below `2 ^ (-1074)`. -/
theorem two_zpow_le (hcanonical : Canonical m e) (hm : 0 < m) :
    (2 : ℚ) ^ (-1074 : ℤ) ≤ m * 2 ^ e := by
  have hone : (1 : ℚ) ≤ m := mod_cast hm
  calc (2 : ℚ) ^ (-1074 : ℤ) ≤ 2 ^ e := zpow_le_zpow_right₀ one_le_two hcanonical.le
    _ ≤ m * 2 ^ e := le_mul_of_one_le_left (by positivity) hone

theorem ten_zpow_length (n : ℕ) (t : ℤ) :
    (10 : ℚ) ^ (n + t) = (10 ^ n : ℕ) * 10 ^ t := by
  rw [zpow_add₀ (by norm_num), zpow_natCast]
  push_cast
  rfl

/-- What is rounded to a finite number has no `decimalLength` that is too great. -/
theorem length_le (hcanonical : Canonical m e) (he : e ≤ 971) (hn : 0 < n)
    (hz : Nearest (n * 10 ^ t) ⟨false, m, e⟩) : decimalLength n + t ≤ 400 := by
  by_contra! hlt
  have hlength : 0 < decimalLength n := Nat.length_toDigits_pos
  have hbelow : 10 ^ (decimalLength n - 1) ≤ n := by
    rw [decimalLength_eq hn.ne', Nat.add_sub_cancel]
    exact Nat.pow_log_le_self 10 hn.ne'
  -- The power of two above all finite numbers would be below the exact number.
  have hgrid : OnGrid (2 ^ (1024 : ℤ)) := ⟨1, 1024, by decide, by decide, by simp⟩
  have hinv := inv_anti₀ (by positivity) ten_zpow_le_two_zpow
  rw [← zpow_neg, ← zpow_neg, neg_neg, neg_neg] at hinv
  have hle : (2 : ℚ) ^ (1024 : ℤ) ≤ n * 10 ^ t :=
    calc (2 : ℚ) ^ (1024 : ℤ) ≤ 2 ^ (1074 : ℤ) := zpow_le_zpow_right₀ (by norm_num) (by decide)
      _ ≤ 10 ^ (400 : ℤ) := hinv
      _ ≤ 10 ^ ((decimalLength n - 1 : ℕ) + t) := zpow_le_zpow_right₀ (by norm_num) (by omega)
      _ = (10 ^ (decimalLength n - 1) : ℕ) * 10 ^ t := ten_zpow_length _ t
      _ ≤ n * 10 ^ t := by gcongr
  have hge := (hz.sides hgrid).1 hle
  rw [Parts.value_positive] at hge
  exact absurd hge (lt_two_zpow hcanonical he).not_ge

/-- What is rounded to a number other than zero has no `decimalLength` that is too small. -/
theorem le_length (hcanonical : Canonical m e) (hm : 0 < m)
    (hz : Nearest (n * 10 ^ t) ⟨false, m, e⟩) : -400 ≤ decimalLength n + t := by
  by_contra! hlt
  have habove : n < 10 ^ decimalLength n :=
    (decimalLength_le_iff Nat.length_toDigits_pos).1 le_rfl
  have hzero : OnGrid 0 := ⟨0, 0, by decide, by decide, by simp⟩
  have hpos : (0 : ℚ) < m * 2 ^ e := by positivity
  have hhalf := half_way_le (hz.le 0 hzero) (Parts.value_positive m e ▸ hpos)
  have hsmall : (n : ℚ) * 10 ^ t < m * 2 ^ e / 10 :=
    calc (n : ℚ) * 10 ^ t < (10 ^ decimalLength n : ℕ) * 10 ^ t := by gcongr
      _ = 10 ^ (decimalLength n + t) := (ten_zpow_length _ t).symm
      _ ≤ 10 ^ (-400 - 1 : ℤ) := zpow_le_zpow_right₀ (by norm_num) (by omega)
      _ = 10 ^ (-400 : ℤ) / 10 := by rw [zpow_sub₀ (by norm_num), zpow_one]
      _ ≤ 2 ^ (-1074 : ℤ) / 10 := by gcongr; exact ten_zpow_le_two_zpow
      _ ≤ m * 2 ^ e / 10 := by gcongr; exact two_zpow_le hcanonical hm
  rw [Parts.value_positive] at hhalf
  linarith

/-- A decimal number whose `Nearest` floating-point number is finite and not zero is that number. -/
theorem nearest_eq_of_pos {negative : Bool} (hx : parts? x = some ⟨negative, m, e⟩) (hm : 0 < m)
    (hz : Nearest (n * 10 ^ t) ⟨false, m, e⟩) : nearest negative n t = x := by
  obtain ⟨hcanonical, he⟩ := parts?_canonical hx
  have hn : 0 < n := by
    have hpos := pos_of_nearest hm hz
    rw [mul_pos_iff_of_pos_right (by positivity)] at hpos
    exact_mod_cast hpos
  have hhigh := length_le hcanonical he hn hz
  have hlow := le_length hcanonical hm hz
  have hlength : decimalLength n ≤ n.log2 + 1 := by
    rw [decimalLength_le_iff (Nat.succ_pos _)]
    exact Nat.lt_log2_self.trans (Nat.pow_lt_pow_left (by decide) (Nat.succ_ne_zero _))
  have hlength' : 0 < decimalLength n := Nat.length_toDigits_pos
  have hparts := parts?_ofScientific hn hcanonical hm hz he (by omega) (by omega)
  have hnearest : nearest negative n t =
      if negative then -Float.ofScientific n (t < 0) t.natAbs
      else Float.ofScientific n (t < 0) t.natAbs := by
    have hhigh : ¬400 < ((Nat.toDigits 10 n).length : ℤ) + t := not_lt.2 hhigh
    have hlow : ¬((Nat.toDigits 10 n).length : ℤ) + t < -400 := not_lt.2 hlow
    rw [nearest, if_neg hn.ne', if_neg hhigh, if_neg hlow]
  rw [hnearest]
  cases negative with
  | false => exact eq_of_parts? hparts hx
  | true => exact eq_of_parts? (parts?_neg_eq hparts) hx

theorem nearest_zero {negative : Bool} (hx : parts? x = some ⟨negative, 0, e⟩) :
    nearest negative 0 t = x := by
  obtain rfl : e = -1074 := (parts?_canonical hx).1.full.resolve_left (show ¬2 ^ 52 ≤ 0 by decide)
  have hzero : parts? 0 = some ⟨false, 0, -1074⟩ := by decide
  cases negative with
  | false => exact eq_of_parts? hzero hx
  | true => exact eq_of_parts? (parts?_neg_eq hzero) hx

/-- The `shortest` digits of a number denote the number. -/
theorem nearest_shortest_eq {negative : Bool} (hx : parts? x = some ⟨negative, m, e⟩)
    (hvalue : (n : ℚ) * 10 ^ t = (shortest m e).value) : nearest negative n t = x := by
  rcases Nat.eq_zero_or_pos m with rfl | hm
  · have hzero : (n : ℚ) * 10 ^ t = 0 := hvalue.trans (by simp [shortest, Digits.value])
    have hten : (10 : ℚ) ^ t ≠ 0 := by positivity
    obtain rfl : n = 0 := by simpa [hten] using hzero
    exact nearest_zero hx
  · exact nearest_eq_of_pos hx hm (hvalue ▸ nearest_shortest (parts?_canonical hx).1 hm)

end Decimals

/-! ### Texts -/

section Texts

variable {cs whole fraction : List Char} {negative : Bool}

theorem digitsValue_digitChars (n : ℕ) : digitsValue (digitChars n) = n :=
  Nat.ofDigitChars_toDigits (by decide) (by decide)

theorem isDigit_of_mem_digitChars {n : ℕ} {c : Char} (hc : c ∈ digitChars n) : c.isDigit :=
  Nat.isDigit_of_mem_toDigits (by decide) (by decide) hc

theorem digitsValue_append_zeros (cs : List Char) (k : ℕ) :
    digitsValue (cs ++ List.replicate k '0') = digitsValue cs * 10 ^ k := by
  change Nat.ofDigitChars 10 (cs ++ List.replicate k '0') 0 = _
  rw [Nat.ofDigitChars_append, Nat.ofDigitChars_replicate_zero, mul_comm]
  rfl

theorem digitsValue_zeros_append (k : ℕ) (cs : List Char) :
    digitsValue (List.replicate k '0' ++ cs) = digitsValue cs := by
  change Nat.ofDigitChars 10 (List.replicate k '0' ++ cs) 0 = _
  rw [Nat.ofDigitChars_append, Nat.ofDigitChars_replicate_zero, mul_zero]
  rfl

/-- The sign that `withSign` puts in front of a digit is split off. -/
theorem readSign_withSign (hne : whole ≠ []) (hwhole : ∀ c ∈ whole, c.isDigit) :
    readSign (withSign negative (whole ++ cs)) = (negative, whole ++ cs) := by
  cases negative with
  | true => rfl
  | false =>
    obtain ⟨c, whole, rfl⟩ := List.exists_cons_of_ne_nil hne
    have hdigit := hwhole c List.mem_cons_self
    rw [withSign, if_neg Bool.false_ne_true, List.cons_append, readSign]
    · intro _ h
      rw [(List.cons.inj h).1] at hdigit
      exact absurd hdigit (by decide)
    · intro _ h
      rw [(List.cons.inj h).1] at hdigit
      exact absurd hdigit (by decide)

theorem read?_withSign (hne : whole ≠ []) (hwhole : ∀ c ∈ whole, c.isDigit) :
    read? (withSign negative whole) = some (nearest negative (digitsValue whole) 0) := by
  have hsign : readSign (withSign negative (whole ++ [])) = (negative, whole ++ []) :=
    readSign_withSign hne hwhole
  rw [List.append_nil] at hsign
  rw [read?, hsign]
  have htake : whole.takeWhile Char.isDigit = whole := List.takeWhile_eq_self_iff.2 hwhole
  have hdrop : whole.dropWhile Char.isDigit = [] := List.dropWhile_eq_nil_iff.2 hwhole
  simp only [htake, hdrop]
  simp [hne, readExponent?]

theorem read?_withSign_point (hne : whole ≠ []) (hwhole : ∀ c ∈ whole, c.isDigit)
    (hfraction : ∀ c ∈ fraction, c.isDigit) :
    read? (withSign negative (whole ++ '.' :: fraction)) =
      some (nearest negative (digitsValue (whole ++ fraction)) (-fraction.length)) := by
  rw [read?, readSign_withSign hne hwhole]
  have htake : (whole ++ '.' :: fraction).takeWhile Char.isDigit = whole := by
    rw [List.takeWhile_append_of_pos hwhole]
    simp
  have hdrop : (whole ++ '.' :: fraction).dropWhile Char.isDigit = '.' :: fraction := by
    rw [List.dropWhile_append_of_pos hwhole]
    simp
  have htake' : fraction.takeWhile Char.isDigit = fraction :=
    List.takeWhile_eq_self_iff.2 hfraction
  have hdrop' : fraction.dropWhile Char.isDigit = [] := List.dropWhile_eq_nil_iff.2 hfraction
  simp only [htake, hdrop, htake', hdrop']
  simp [hne, readExponent?]

/-- The `positional` digits with the point at its place denote their number. -/
theorem exists_read?_positional (negative : Bool) (d : Digits) :
    ∃ n t, read? (withSign negative (d.positional [])) = some (nearest negative n t) ∧
      (n : ℚ) * 10 ^ t = d.value := by
  obtain ⟨n, e⟩ := d
  have hdigits : ∀ c ∈ digitChars n, c.isDigit := fun _ ↦ isDigit_of_mem_digitChars
  have hzeros (k) : ∀ c ∈ List.replicate k '0', c.isDigit := fun c hc ↦
    List.eq_of_mem_replicate hc ▸ by decide
  have hne : digitChars n ≠ [] := Nat.toDigits_ne_nil
  cases e with
  | ofNat k =>
    have htext : Digits.positional ⟨n, .ofNat k⟩ [] = digitChars n ++ List.replicate k '0' :=
      List.append_nil _
    rw [htext]
    refine ⟨_, _, read?_withSign ?_ (List.forall_mem_append.2 ⟨hdigits, hzeros k⟩), ?_⟩
    · simp [hne]
    · rw [digitsValue_append_zeros, digitsValue_digitChars]
      simp [Digits.value]
  | negSucc k =>
    rw [Digits.positional]
    dsimp only
    split
    · rename_i hlt
      refine ⟨_, _, read?_withSign_point ?_ (fun c hc ↦ hdigits c (List.mem_of_mem_take hc))
        (fun c hc ↦ hdigits c (List.mem_of_mem_drop hc)), ?_⟩
      · rw [Ne, List.take_eq_nil_iff, not_or]
        exact ⟨by omega, hne⟩
      · rw [List.take_append_drop, digitsValue_digitChars, List.length_drop,
          Nat.sub_sub_self hlt.le]
        rfl
    · rename_i hle
      rw [List.cons_append, List.cons_append]
      refine ⟨_, _, read?_withSign_point (List.cons_ne_nil '0' [])
        (List.forall_mem_singleton.2 rfl) (List.forall_mem_append.2 ⟨hzeros _, hdigits⟩), ?_⟩
      have hvalue (m : ℕ) : digitsValue (['0'] ++ (List.replicate m '0' ++ digitChars n)) = n := by
        exact (digitsValue_zeros_append (m + 1) _).trans (digitsValue_digitChars n)
      rw [hvalue, List.length_append, List.length_replicate, Nat.sub_add_cancel (not_lt.1 hle)]
      rfl

theorem isDigit_or_point_of_mem_positional {d : Digits} {c : Char} (hc : c ∈ d.positional []) :
    c.isDigit ∨ c = '.' := by
  obtain ⟨n, e⟩ := d
  have hdigits {c} (hc : c ∈ digitChars n) : c.isDigit := isDigit_of_mem_digitChars hc
  have hzero {k} (hc : c ∈ List.replicate k '0') : c.isDigit :=
    List.eq_of_mem_replicate hc ▸ rfl
  cases e with
  | ofNat k =>
    rw [Digits.positional] at hc
    dsimp only at hc
    rw [List.append_nil, List.mem_append] at hc
    exact .inl (hc.elim hdigits hzero)
  | negSucc k =>
    rw [Digits.positional] at hc
    dsimp only at hc
    split at hc
    · rw [List.mem_append, List.mem_cons] at hc
      obtain hc | rfl | hc := hc
      · exact .inl (hdigits (List.mem_of_mem_take hc))
      · exact .inr rfl
      · exact .inl (hdigits (List.mem_of_mem_drop hc))
    · rw [List.cons_append, List.cons_append, List.mem_cons, List.mem_cons, List.mem_append] at hc
      obtain rfl | rfl | hc | hc := hc
      · exact .inl rfl
      · exact .inr rfl
      · exact .inl (hzero hc)
      · exact .inl (hdigits hc)

/-- The `positional` form of a finite number is read as the number. -/
theorem read?_positional {x : Float} {p : Parts} (hx : parts? x = some p) :
    read? (withSign p.negative ((shortest p.significand p.exponent).positional [])) = some x := by
  obtain ⟨n, t, hread, hvalue⟩ :=
    exists_read?_positional p.negative (shortest p.significand p.exponent)
  rw [hread, nearest_shortest_eq hx hvalue]

end Texts

end AssessmentItem.Binary64
