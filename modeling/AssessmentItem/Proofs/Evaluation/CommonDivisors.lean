import AssessmentItem.Proofs.Evaluation.Divisibility

/-!
# Common divisors of integers

The greatest common divisor of integers is formed from the first member to the last, and the first
one is only turned into its magnitude.  That is its greatest common divisor with zero, so each round
takes the divisor of the members so far to that of one member more.  Every divisor on the way fits,
and only the smallest integer, which has no magnitude, makes the result NULL.

## Main definitions

* `Evaluation.IsGreatestDivisor` : the greatest common divisor of integers.
* `Evaluation.GreatestDivisorLaws` : what the greatest common divisor of operands is.

## Main results

* `Evaluation.greatestDivisorLaws` : the greatest common divisor of operands.
-/

namespace AssessmentItem.Evaluation

open Integer

variable {store : Store} {vs ws : List Value} {xs ys : List Int64} {m n x : Int64}

/-! ### The greatest common divisor -/

/-- The integer `n` is the greatest common divisor of `xs`: the one that is not negative and that
every common divisor divides. -/
structure IsGreatestDivisor (xs : List Int64) (n : Int64) : Prop where
  nonneg : 0 ≤ n.toInt
  dvd : ∀ x ∈ xs, n.toInt ∣ x.toInt
  greatest : ∀ d : ℤ, (∀ x ∈ xs, d ∣ x.toInt) → d ∣ n.toInt

theorem isGreatestDivisor_nil : IsGreatestDivisor [] 0 where
  nonneg := le_refl _
  dvd := nofun
  greatest d _ := dvd_zero d

theorem IsGreatestDivisor.unique (hn : IsGreatestDivisor xs n) (hm : IsGreatestDivisor xs m) :
    n = m :=
  Int64.toInt_inj.1 <|
    Int.dvd_antisymm hn.nonneg hm.nonneg (hm.greatest _ hn.dvd) (hn.greatest _ hm.dvd)

theorem IsGreatestDivisor.perm (h : IsGreatestDivisor xs n) (hperm : xs.Perm ys) :
    IsGreatestDivisor ys n where
  nonneg := h.nonneg
  dvd x hx := h.dvd x (hperm.mem_iff.2 hx)
  greatest d hd := h.greatest d fun x hx ↦ hd x (hperm.mem_iff.1 hx)

theorem IsGreatestDivisor.eq_zero_iff (h : IsGreatestDivisor xs n) :
    n = 0 ↔ ∀ x ∈ xs, x = 0 := by
  constructor
  · rintro rfl x hx
    exact Int64.toInt_inj.1 (zero_dvd_iff.1 (h.dvd x hx))
  · intro hzero
    refine Int64.toInt_inj.1 (zero_dvd_iff.1 (h.greatest 0 fun x hx ↦ ?_))
    rw [hzero x hx, Int64.toInt_zero]

theorem ne_minValue_of_nonneg (h : 0 ≤ n.toInt) : n ≠ Int64.minValue := by
  rintro rfl
  exact absurd h (by decide)

/-- One member `x` more. -/
theorem IsGreatestDivisor.step (h : IsGreatestDivisor xs n) (hx : x ≠ Int64.minValue) :
    ∃ m, gcd? n x = some m ∧ IsGreatestDivisor (xs ++ [x]) m := by
  obtain ⟨m, hm, hvalue⟩ :=
    exists_gcd? (natAbs_lt_iff.2 (ne_minValue_of_nonneg h.nonneg)) (natAbs_lt_iff.2 hx)
  refine ⟨m, hm, ?_, ?_, ?_⟩
  · rw [hvalue]
    exact Int.natCast_nonneg _
  · rw [hvalue, List.forall_mem_append, List.forall_mem_singleton]
    exact ⟨fun y hy ↦ (Int.gcd_dvd_left ..).trans (h.dvd y hy), Int.gcd_dvd_right ..⟩
  · intro d hd
    rw [List.forall_mem_append, List.forall_mem_singleton] at hd
    rw [hvalue]
    exact Int.dvd_coe_gcd (h.greatest d hd.1) hd.2

/-- Any number of members `ys` more. -/
theorem IsGreatestDivisor.run (h : IsGreatestDivisor xs n) (hys : Int64.minValue ∉ ys) :
    ∃ m, ys.foldlM gcd? n = some m ∧ IsGreatestDivisor (xs ++ ys) m := by
  induction ys generalizing xs n with
  | nil => exact ⟨n, rfl, by rwa [List.append_nil]⟩
  | cons y ys ih =>
    rw [List.mem_cons, not_or] at hys
    obtain ⟨next, hnext, hstep⟩ := h.step (Ne.symm hys.1)
    rw [List.foldlM_cons, bind_of_eq_some hnext, List.append_cons]
    exact ih hstep hys.2

/-- Nothing makes good for `Int64.minValue`. -/
theorem foldlM_gcd?_eq_none (hxs : Int64.minValue ∈ xs) (start : Int64) :
    xs.foldlM gcd? start = none := by
  induction xs generalizing start with
  | nil => exact absurd hxs List.not_mem_nil
  | cons x xs ih =>
    rw [List.foldlM_cons]
    obtain rfl | hxs := List.mem_cons.1 hxs
    · exact bind_of_eq_none (gcd?_eq_none (.inr (not_lt.1 (natAbs_lt_iff.not.2 fun h ↦ h rfl))))
    · cases hnext : gcd? start x with
      | none => rfl
      | some next => exact ih hxs next

/-! ### Operands -/

/-- What `.gcd` gives for operands `vs` with the members `xs`. -/
structure GreatestDivisorLaws (store : Store) (vs : List Value) (xs : List Int64) : Prop where
  /-- A member `Int64.minValue` makes the result `.null`, and nothing else does. -/
  null : ∃ v, Yields store .gcd vs v ∧ (v = .null ↔ Int64.minValue ∈ xs)
  found : Int64.minValue ∉ xs → ∃ n, Yields store .gcd vs (.integer n) ∧ IsGreatestDivisor xs n
  zero : (∀ x ∈ xs, x = 0) → Yields store .gcd vs (.integer 0)
  /-- In any order `ys` and any grouping `ws` of the members the result is the same. -/
  perm {ws : List Value} {ys : List Int64} : Spread ws ys → xs.Perm ys →
    ∃ v, Yields store .gcd vs v ∧ Yields store .gcd ws v
  /-- Two integers at a time the Euclidean algorithm of `gcd?` ends, and everything on the way
  fits. -/
  rounds (a b : Int64) : EuclidLaws a b

theorem gcd?_zero (x : Int64) : gcd? 0 x = abs? x := by
  by_cases hx : x.toInt.natAbs < 2 ^ 63
  · have hzero : (0 : Int64).toInt.natAbs < 2 ^ 63 := by decide
    rw [gcd?_eq hzero hx, Int64.toInt_zero, Int.gcd_zero_left]
    rfl
  · rw [gcd?_eq_none (.inr (not_lt.1 hx)), abs?_eq_none (not_lt.1 hx)]

theorem yields_gcd (store : Store) (h : Spread vs xs) (hvs : vs ≠ []) :
    Yields store .gcd vs (integerOrNull (xs.foldlM gcd? 0)) :=
  yields_of_spread (.inl rfl) h hvs (foldIntegers_eq gcd?_zero h hvs)

theorem yields_gcd_null (store : Store) (h : Spread vs xs) (hvs : vs ≠ [])
    (hmin : Int64.minValue ∈ xs) : Yields store .gcd vs .null := by
  have hyields := yields_gcd store h hvs
  rwa [foldlM_gcd?_eq_none hmin] at hyields

theorem exists_yields_gcd (store : Store) (h : Spread vs xs) (hvs : vs ≠ [])
    (hmin : Int64.minValue ∉ xs) :
    ∃ n, Yields store .gcd vs (.integer n) ∧ IsGreatestDivisor xs n := by
  have hyields := yields_gcd store h hvs
  obtain ⟨n, hn, hdivisor⟩ := isGreatestDivisor_nil.run hmin
  rw [hn] at hyields
  exact ⟨n, hyields, hdivisor⟩

/-- The greatest common divisor is exact in any order, and `.null` only for `Int64.minValue`. -/
theorem greatestDivisorLaws (store : Store) (h : Spread vs xs) (hvs : vs ≠ []) :
    GreatestDivisorLaws store vs xs where
  null := by
    by_cases hmin : Int64.minValue ∈ xs
    · exact ⟨.null, yields_gcd_null store h hvs hmin, iff_of_true rfl hmin⟩
    · obtain ⟨n, hn, -⟩ := exists_yields_gcd store h hvs hmin
      exact ⟨.integer n, hn, iff_of_false nofun hmin⟩
  found := exists_yields_gcd store h hvs
  zero hzero := by
    have hmin : Int64.minValue ∉ xs := fun hmin ↦ absurd (hzero _ hmin) (by decide)
    obtain ⟨n, hn, hdivisor⟩ := exists_yields_gcd store h hvs hmin
    rwa [hdivisor.eq_zero_iff.2 hzero] at hn
  perm {ws ys} hws hperm := by
    have hws' : ws ≠ [] := by
      rintro rfl
      cases hws
      exact h.ne_nil hvs hperm.eq_nil
    by_cases hmin : Int64.minValue ∈ xs
    · exact ⟨.null, yields_gcd_null store h hvs hmin,
        yields_gcd_null store hws hws' (hperm.mem_iff.1 hmin)⟩
    · obtain ⟨n, hn, hdivisor⟩ := exists_yields_gcd store h hvs hmin
      obtain ⟨m, hm, hdivisor'⟩ := exists_yields_gcd store hws hws' (hperm.mem_iff.not.1 hmin)
      rw [← (hdivisor.perm hperm).unique hdivisor'] at hm
      exact ⟨.integer n, hn, hm⟩
  rounds := euclidLaws

theorem greatestDivisorLaws_container :
    Spread [.integer 12, .multiple ⟨.integer, [.integer (-18), .integer 0], by decide⟩]
        [12, -18, 0] ∧
      [Value.integer 12, .multiple ⟨.integer, [.integer (-18), .integer 0], by decide⟩] ≠ [] ∧
      Yields ⟨[]⟩ .gcd
        [.integer 12, .multiple ⟨.integer, [.integer (-18), .integer 0], by decide⟩]
        (.integer 6) := by
  have hspread : Spread
      [.integer 12, .multiple ⟨.integer, [.integer (-18), .integer 0], by decide⟩]
      [12, -18, 0] :=
    .cons (.single 12) (.cons (.multiple rfl nofun rfl : HoldsIntegers _ [-18, 0]) .nil)
  refine ⟨hspread, nofun, ?_⟩
  obtain ⟨n, hn, hdivisor⟩ := (greatestDivisorLaws ⟨[]⟩ hspread nofun).found (by decide)
  have hsix : IsGreatestDivisor [12, -18, 0] 6 := by
    refine ⟨by decide, ?_, fun d hd ↦ ?_⟩
    · rw [List.forall_mem_cons, List.forall_mem_cons, List.forall_mem_singleton]
      exact ⟨⟨2, rfl⟩, ⟨-3, rfl⟩, ⟨0, rfl⟩⟩
    · rw [List.forall_mem_cons, List.forall_mem_cons] at hd
      exact dvd_neg.1 (dvd_add hd.1 hd.2.1)
  rwa [hdivisor.unique hsix] at hn

end AssessmentItem.Evaluation
