import Mathlib.Algebra.GCDMonoid.Multiset
import Mathlib.Algebra.GCDMonoid.Nat
import Mathlib.Data.List.TakeWhile
import AssessmentItem.Proofs.Evaluation.Integers
import AssessmentItem.Proofs.Evaluation.Numbers

/-!
# Common multiples of integers

The least common multiple of integers is formed from the first member to the last, whether the
members are operands of their own or stand in containers.  A common multiple on the way divides the
whole, so it fits if the whole does, and the order of the members says nothing, unless one of them
is zero.  Zero makes the whole zero, but a common multiple of the members before it that does not
fit makes the result NULL first.

## Main definitions

* `Evaluation.Spread` : operands with the given integers as their members.
* `Evaluation.leastMultiple` : the least common multiple of exact integers.
* `Evaluation.LeastMultipleLaws` : what the least common multiple of operands is.

## Main results

* `Evaluation.foldIntegers_eq` : an operation over all members of operands.
* `Evaluation.leastMultipleLaws` : the least common multiple of operands.
-/

namespace AssessmentItem.Evaluation

open Integer

variable {store : Store} {op : Operator} {vs ws : List Value} {xs ys : List Int64}

/-! ### Operands of integers -/

/-- A `.single` integer or a container of integers, with its members. -/
inductive HoldsIntegers : Value → List Int64 → Prop
  | single (x : Int64) : HoldsIntegers (.integer x) [x]
  | multiple {c : Container} {xs : List Int64} (hc : c.baseType = .integer) (hxs : xs ≠ [])
      (h : c.members = xs.map .integer) : HoldsIntegers (.multiple c) xs
  | ordered {c : Container} {xs : List Int64} (hc : c.baseType = .integer) (hxs : xs ≠ [])
      (h : c.members = xs.map .integer) : HoldsIntegers (.ordered c) xs

/-- Operands with `HoldsIntegers`, with all their members one after the other. -/
inductive Spread : List Value → List Int64 → Prop
  | nil : Spread [] []
  | cons {v : Value} {vs : List Value} {xs ys : List Int64} (hv : HoldsIntegers v xs)
      (hvs : Spread vs ys) : Spread (v :: vs) (xs ++ ys)

theorem HoldsIntegers.holdsNumbers {v : Value} (h : HoldsIntegers v xs) :
    HoldsNumbers v (xs.map Number.integer) := by
  have hscalars : xs.map Scalar.integer = (xs.map Number.integer).map Number.toScalar := by
    rw [List.map_map]
    rfl
  cases h with
  | single x => exact .single (.integer x)
  | multiple _ hxs h => exact .multiple (List.map_eq_nil_iff.not.2 hxs) (h.trans hscalars)
  | ordered _ hxs h => exact .ordered (List.map_eq_nil_iff.not.2 hxs) (h.trans hscalars)

theorem HoldsIntegers.admits {v : Value} (h : HoldsIntegers v xs) {arity : Arity} :
    (Signature.strict arity Signature.nonRecord (.only [.integer])).Admits v := by
  cases h with
  | single => exact Signature.admits_single (.head _) rfl
  | multiple hc | ordered hc =>
    rintro _ ⟨⟩
    constructor
    · change _ ∈ Signature.nonRecord
      decide
    · rintro _ ⟨⟩
      rw [hc]
      rfl

theorem Spread.forall_mem (h : Spread vs xs) : ∀ v ∈ vs, ∃ ys, HoldsIntegers v ys := by
  induction h with
  | nil => exact nofun
  | cons hv _ ih => exact List.forall_mem_cons.2 ⟨⟨_, hv⟩, ih⟩

theorem Spread.spreadNumbers (h : Spread vs xs) : SpreadNumbers vs (xs.map Number.integer) := by
  induction h with
  | nil => exact .nil
  | cons hv _ ih =>
    rw [List.map_append]
    exact .cons hv.holdsNumbers ih

theorem Spread.readAllMembers_eq (h : Spread vs xs) :
    readAllMembers vs = .ok (xs.map .integer) := by
  rw [h.spreadNumbers.readAllMembers_eq, List.map_map]
  rfl

theorem spread_integers : (xs : List Int64) → Spread (xs.map Value.integer) xs
  | [] => .nil
  | x :: xs => .cons (.single x) (spread_integers xs)

theorem Spread.ne_nil (h : Spread vs xs) (hvs : vs ≠ []) : xs ≠ [] :=
  List.map_eq_nil_iff.not.1 (h.spreadNumbers.ne_nil hvs)

theorem mapM_integer?_scalars : (xs : List Int64) →
    (xs.map Scalar.integer).mapM (fun s ↦ orUnreadable s.integer?) = .ok xs
  | [] => rfl
  | x :: xs => by
      rw [List.map_cons, List.mapM_cons, mapM_integer?_scalars xs]
      rfl

/-- What `foldIntegers` gives over all members, started with a number that `f` turns into
magnitudes. -/
theorem foldIntegers_eq {f : Int64 → Int64 → Option Int64} {start : Int64}
    (hstart : ∀ x, f start x = abs? x) (h : Spread vs xs) (hvs : vs ≠ []) :
    foldIntegers f vs = .ok (integerOrNull (xs.foldlM f start)) := by
  rw [foldIntegers, h.readAllMembers_eq]
  change ((xs.map Scalar.integer).mapM (fun s ↦ orUnreadable s.integer?) >>= _) = _
  rw [mapM_integer?_scalars]
  cases xs with
  | nil => exact absurd rfl (h.ne_nil hvs)
  | cons x xs =>
    rw [List.foldlM_cons, hstart]
    rfl

theorem yields_of_spread (hop : op = .gcd ∨ op = .lcm) (h : Spread vs xs) (hvs : vs ≠ [])
    {v : Value} (hv : combine store op vs = .ok v) : Yields store op vs v := by
  have hsignature : op.signature =
      .strict (.atLeast 1) Signature.nonRecord (.only [.integer]) := by
    obtain rfl | rfl := hop <;> rfl
  refine yields_of_members hsignature hvs (fun w hw ↦ ?_) hv
  obtain ⟨_, hw⟩ := h.forall_mem w hw
  exact ⟨hw.holdsNumbers.isNull_eq, hw.admits⟩

/-! ### The least common multiple -/

/-- The least common multiple of exact integers, which is never negative. -/
def leastMultiple (l : List ℤ) : ℤ := Multiset.lcm l

/-- The members before the first one that is `0`. -/
def beforeZero (xs : List Int64) : List Int64 := xs.takeWhile (· ≠ 0)

/-- What `.lcm` gives for operands `vs` with the members `xs`. -/
structure LeastMultipleLaws (store : Store) (vs : List Value) (xs : List Int64) : Prop where
  found : 0 ∉ xs → InRange (leastMultiple (xs.map Int64.toInt)) →
    ∃ n, Yields store .lcm vs (.integer n) ∧ n.toInt = leastMultiple (xs.map Int64.toInt) ∧
      0 < n.toInt
  tooGreat : 0 ∉ xs → ¬InRange (leastMultiple (xs.map Int64.toInt)) → Yields store .lcm vs .null
  zero : 0 ∈ xs → InRange (leastMultiple ((beforeZero xs).map Int64.toInt)) →
    Yields store .lcm vs (.integer 0)
  /-- A zero comes too late where the members `beforeZero` have too great a common multiple. -/
  lost : 0 ∈ xs → ¬InRange (leastMultiple ((beforeZero xs).map Int64.toInt)) →
    Yields store .lcm vs .null
  /-- In any order `ys` and any grouping `ws` of the members the result is the same, unless there is
  a zero among them and the other members have too great a common multiple. -/
  perm {ws : List Value} {ys : List Int64} : Spread ws ys → xs.Perm ys →
    (0 ∈ xs → InRange (leastMultiple ((xs.filter (· ≠ 0)).map Int64.toInt))) →
    ∃ v, Yields store .lcm vs v ∧ Yields store .lcm ws v

theorem leastMultiple_eq_foldl (l : List ℤ) :
    leastMultiple l = l.foldl (fun a b ↦ (Int.lcm a b : ℤ)) 1 := by
  simp only [Int.coe_lcm]
  exact Multiset.coe_fold_l ..

theorem leastMultiple_nonneg (l : List ℤ) : 0 ≤ leastMultiple l :=
  Int.nonneg_of_normalize_eq_self (Multiset.normalize_lcm _)

theorem leastMultiple_eq_zero_iff {l : List ℤ} : leastMultiple l = 0 ↔ 0 ∈ l :=
  Multiset.lcm_eq_zero_iff _

theorem leastMultiple_dvd {l l' : List ℤ} (h : l ⊆ l') : leastMultiple l ∣ leastMultiple l' :=
  Multiset.lcm_mono h

theorem leastMultiple_perm {l l' : List ℤ} (h : l.Perm l') : leastMultiple l = leastMultiple l' :=
  congrArg Multiset.lcm (Multiset.coe_eq_coe.2 h)

theorem zero_mem_map_toInt_iff : 0 ∈ xs.map Int64.toInt ↔ 0 ∈ xs := by
  constructor
  · rintro h
    obtain ⟨x, hx, hzero⟩ := List.mem_map.1 h
    rwa [← Int64.toInt_inj.1 (hzero.trans Int64.toInt_zero.symm)]
  · exact fun h ↦ List.mem_map.2 ⟨0, h, rfl⟩

theorem zero_notMem_beforeZero (xs : List Int64) : 0 ∉ beforeZero xs :=
  fun h ↦ by simpa using List.mem_takeWhile_imp h

theorem beforeZero_append (h : 0 ∉ xs) : beforeZero (xs ++ ys) = xs ++ beforeZero ys :=
  List.takeWhile_append_of_pos fun _ hx ↦ decide_eq_true fun hzero ↦ h (hzero ▸ hx)

theorem beforeZero_eq_self (h : 0 ∉ xs) : beforeZero xs = xs :=
  List.takeWhile_eq_self_iff.2 fun _ hx ↦ decide_eq_true fun hzero ↦ h (hzero ▸ hx)

theorem beforeZero_subset (xs : List Int64) : beforeZero xs ⊆ xs.filter (· ≠ 0) := by
  intro x hx
  refine List.mem_filter.2 ⟨(List.takeWhile_sublist _).subset hx, decide_eq_true ?_⟩
  rintro rfl
  exact zero_notMem_beforeZero xs hx

/-- A common multiple of `xs` fits if that of more members `ys` does, unless those have a zero among
them. -/
theorem inRange_leastMultiple (hzero : 0 ∉ ys) (h : xs ⊆ ys)
    (hrange : InRange (leastMultiple (ys.map Int64.toInt))) :
    InRange (leastMultiple (xs.map Int64.toInt)) := by
  have hpos : 0 < leastMultiple (ys.map Int64.toInt) :=
    (leastMultiple_nonneg _).lt_of_ne'
      (leastMultiple_eq_zero_iff.not.2 (zero_mem_map_toInt_iff.not.2 hzero))
  have hle := Int.le_of_dvd hpos (leastMultiple_dvd (List.map_subset _ h))
  have hnonneg := leastMultiple_nonneg (xs.map Int64.toInt)
  unfold InRange at *
  omega

/-- All common multiples on the way fit if that of `beforeZero xs` does. -/
theorem forall_prefix_inRange_iff :
    (∀ p, p <+: xs → InRange (leastMultiple (p.map Int64.toInt))) ↔
      InRange (leastMultiple ((beforeZero xs).map Int64.toInt)) := by
  refine ⟨fun h ↦ h _ (List.takeWhile_prefix _), fun h p hp ↦ ?_⟩
  by_cases hzero : 0 ∈ p
  · rw [leastMultiple_eq_zero_iff.2 (zero_mem_map_toInt_iff.2 hzero)]
    decide
  · obtain ⟨q, rfl⟩ := hp
    rw [beforeZero_append hzero] at h
    refine inRange_leastMultiple ?_ (List.subset_append_left p (beforeZero q)) h
    exact List.mem_append.not.2 (not_or.2 ⟨hzero, zero_notMem_beforeZero q⟩)

/-- Reordering does not change whether the common multiple of `beforeZero xs` fits, if that of all
that is not zero does. -/
theorem inRange_beforeZero_iff (hperm : xs.Perm ys)
    (h : 0 ∈ xs → InRange (leastMultiple ((xs.filter (· ≠ 0)).map Int64.toInt))) :
    InRange (leastMultiple ((beforeZero xs).map Int64.toInt)) ↔
      InRange (leastMultiple ((beforeZero ys).map Int64.toInt)) := by
  by_cases hzero : 0 ∈ xs
  · have hnonzero : 0 ∉ xs.filter (· ≠ 0) := by simp
    have hys : beforeZero ys ⊆ xs.filter (· ≠ 0) := fun x hx ↦
      (hperm.symm.filter _).subset (beforeZero_subset ys hx)
    exact iff_of_true (inRange_leastMultiple hnonzero (beforeZero_subset xs) (h hzero))
      (inRange_leastMultiple hnonzero hys (h hzero))
  · rw [beforeZero_eq_self hzero, beforeZero_eq_self (hperm.mem_iff.not.1 hzero),
      leastMultiple_perm (hperm.map Int64.toInt)]

theorem yields_lcm (store : Store) (h : Spread vs xs) (hvs : vs ≠ []) :
    ∃ v, Yields store .lcm vs v ∧ IsTotal leastMultiple xs v := by
  have hfold := foldIntegers_eq lcm?_one h hvs
  refine ⟨_, yields_of_spread (.inr rfl) h hvs hfold, ?_⟩
  have hstep : lcm? = fun a b ↦ fit? (Int.lcm a.toInt b.toInt) := by
    funext a b
    exact lcm?_eq a b
  have hone : (1 : Int64).toInt = 1 := by decide
  rw [hstep]
  refine isTotal_foldlM (f := fun a b ↦ (Int.lcm a b : ℤ)) (fun l ↦ ?_) xs
  rw [leastMultiple_eq_foldl, hone]

theorem yields_lcm_null (store : Store) (h : Spread vs xs) (hvs : vs ≠ [])
    (hout : ¬InRange (leastMultiple ((beforeZero xs).map Int64.toInt))) :
    Yields store .lcm vs .null := by
  obtain ⟨v, hv, hvalue⟩ := yields_lcm store h hvs
  cases hvalue with
  | lost => exact hv
  | found _ hrange => exact absurd (forall_prefix_inRange_iff.1 hrange) hout

/-- The least common multiple is exact, and `.null` where that of the members `beforeZero` does not
fit. -/
theorem leastMultipleLaws (store : Store) (h : Spread vs xs) (hvs : vs ≠ []) :
    LeastMultipleLaws store vs xs where
  found hzero hrange := by
    obtain ⟨v, hv, hvalue⟩ := yields_lcm store h hvs
    rw [← beforeZero_eq_self hzero, ← forall_prefix_inRange_iff] at hrange
    cases hvalue with
    | lost hp hout => exact absurd (hrange _ hp) hout
    | found hn =>
      refine ⟨_, hv, hn, hn ▸ (leastMultiple_nonneg _).lt_of_ne' ?_⟩
      exact leastMultiple_eq_zero_iff.not.2 (zero_mem_map_toInt_iff.not.2 hzero)
  tooGreat hzero hout := by
    rw [← beforeZero_eq_self hzero] at hout
    exact yields_lcm_null store h hvs hout
  zero hzero hrange := by
    obtain ⟨v, hv, hvalue⟩ := yields_lcm store h hvs
    rw [← forall_prefix_inRange_iff] at hrange
    cases hvalue with
    | lost hp hout => exact absurd (hrange _ hp) hout
    | @found n hn =>
      rw [leastMultiple_eq_zero_iff.2 (zero_mem_map_toInt_iff.2 hzero)] at hn
      rwa [Int64.toInt_inj.1 (hn.trans Int64.toInt_zero.symm)] at hv
  lost _ hout := yields_lcm_null store h hvs hout
  perm {ws ys} hws hperm hrest := by
    have hws' : ws ≠ [] := by
      rintro rfl
      cases hws
      exact h.ne_nil hvs hperm.eq_nil
    have hmultiple := leastMultiple_perm (hperm.map Int64.toInt)
    obtain ⟨v, hv, hvalue⟩ := yields_lcm store h hvs
    obtain ⟨w, hw, hvalue'⟩ := yields_lcm store hws hws'
    have hranges := inRange_beforeZero_iff hperm hrest
    rw [← forall_prefix_inRange_iff, ← forall_prefix_inRange_iff] at hranges
    suffices heq : v = w from ⟨v, hv, heq ▸ hw⟩
    cases hvalue with
    | found hn hrange =>
      cases hvalue' with
      | found hm => rw [Int64.toInt_inj.1 (hn.trans (hmultiple.trans hm.symm))]
      | lost hp hout => exact absurd (hranges.1 hrange _ hp) hout
    | lost hp hout =>
      cases hvalue' with
      | found _ hrange => exact absurd (hranges.2 hrange _ hp) hout
      | lost => rfl

theorem leastMultipleLaws_container :
    Spread [.integer 4, .ordered ⟨.integer, [.integer (-6), .integer 9], by decide⟩] [4, -6, 9] ∧
      [Value.integer 4, .ordered ⟨.integer, [.integer (-6), .integer 9], by decide⟩] ≠ [] ∧
      ∃ n, Yields ⟨[]⟩ .lcm
        [.integer 4, .ordered ⟨.integer, [.integer (-6), .integer 9], by decide⟩] (.integer n) ∧
        n.toInt = 36 := by
  have hspread : Spread
      [.integer 4, .ordered ⟨.integer, [.integer (-6), .integer 9], by decide⟩] [4, -6, 9] :=
    .cons (.single 4) (.cons (.ordered rfl nofun rfl : HoldsIntegers _ [-6, 9]) .nil)
  refine ⟨hspread, nofun, ?_⟩
  obtain ⟨n, hn, hvalue, -⟩ :=
    (leastMultipleLaws ⟨[]⟩ hspread nofun).found (by decide) (by decide)
  exact ⟨n, hn, hvalue.trans (by decide)⟩

/-- Three times `2 ^ 62` does not fit, so zero is found only if it comes before the second one. -/
theorem zero_lost_behind_multiple :
    Yields ⟨[]⟩ .lcm ([0, 4611686018427387904, 3].map Value.integer) (.integer 0) ∧
      Yields ⟨[]⟩ .lcm ([4611686018427387904, 3, 0].map Value.integer) .null ∧
      ¬∀ xs : List Int64, 0 ∈ xs → Int64.minValue ∉ xs →
        Yields ⟨[]⟩ .lcm (xs.map Value.integer) (.integer 0) := by
  have hzero : Yields ⟨[]⟩ .lcm ([0, 4611686018427387904, 3].map Value.integer) (.integer 0) := by
    obtain ⟨v, hv, hvalue⟩ := yields_lcm ⟨[]⟩
      (spread_integers [0, 4611686018427387904, 3]) (List.cons_ne_nil _ _)
    cases hvalue with
    | @found n hn =>
      have hn : n = 0 := Int64.toInt_inj.1 (hn.trans (by decide))
      rwa [hn] at hv
    | lost hp hout => exact absurd (forall_prefix_inRange_iff.2 (by decide) _ hp) hout
  have hlost : Yields ⟨[]⟩ .lcm ([4611686018427387904, 3, 0].map Value.integer) .null :=
    yields_lcm_null ⟨[]⟩ (spread_integers [4611686018427387904, 3, 0]) (List.cons_ne_nil _ _)
      (by decide)
  refine ⟨hzero, hlost, fun h ↦ ?_⟩
  have hall := h [4611686018427387904, 3, 0] (by decide) (by decide)
  have heq : Value.integer 0 = .null :=
    Yields.unique ([4611686018427387904, 3, 0].map .integer) hall hlost
  nomatch heq

end AssessmentItem.Evaluation
