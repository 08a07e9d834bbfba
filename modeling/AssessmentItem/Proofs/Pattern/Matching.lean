import AssessmentItem.Pattern.Limits

/-!
# What patterns match

A pattern is matched by moving sets of places through a text.  This file says of a pattern alone
from which place to which it leads, by recursion on the pattern, and shows that the places that are
reached are those.  Repetition that has no greatest number is cut off after as many rounds as the
text has places, which is enough: no match runs backwards, so a round that goes nowhere can be left
out.

## Main definitions

* `Pattern.Times` : a relation of places, a given number of times.
* `Pattern.Matches` : the pattern leads from one place of a text to another.

## Main results

* `Pattern.mem_advance_iff` : the places that are reached are those to which the pattern leads.
* `Pattern.occursIn_iff` : a pattern occurs in the texts in which it leads from one place to
  another.
-/

namespace AssessmentItem.Pattern

variable {R : Nat → Nat → Prop} {step : List Nat → List Nat} {places : List Nat}
  {text : Array Char} {p : Pattern} {size n i j k : Nat}

/-! ### Repetition -/

/-- The relation `R` of places, so many times one after the other. -/
def Times (R : Nat → Nat → Prop) : Nat → Nat → Nat → Prop
  | 0, i, j => i = j
  | n + 1, i, j => ∃ k, R i k ∧ Times R n k j

theorem times_add (R : Nat → Nat → Prop) (m n i j : Nat) :
    Times R (m + n) i j ↔ ∃ k, Times R m i k ∧ Times R n k j := by
  induction m generalizing i with
  | zero => simp [Times]
  | succ m ih =>
    rw [Nat.add_right_comm]
    simp only [Times, ih]
    constructor
    · rintro ⟨k, hik, l, hkl, hlj⟩
      exact ⟨l, ⟨k, hik, hkl⟩, hlj⟩
    · rintro ⟨l, ⟨k, hik, hkl⟩, hlj⟩
      exact ⟨k, hik, l, hkl, hlj⟩

/-- What `R` keeps of the places, `Times R` keeps. -/
theorem Times.preserves {P : Nat → Prop} (hR : ∀ i j, P i → R i j → P j) (hi : P i)
    (h : Times R n i j) : P j := by
  induction n generalizing i with
  | zero =>
    obtain rfl : i = j := h
    exact hi
  | succ n ih =>
    obtain ⟨k, hik, hkj⟩ := h
    exact ih (hR i k hi hik) hkj

/-- The relation `R` runs forwards and not beyond `size`. -/
def Forward (size : Nat) (R : Nat → Nat → Prop) : Prop :=
  ∀ i j, i ≤ size → R i j → i ≤ j ∧ j ≤ size

/-- A repetition of what is `Forward` runs forwards as well. -/
theorem Forward.times (hR : Forward size R) (n : Nat) : Forward size (Times R n) := by
  intro i j hi hij
  refine hij.preserves (P := fun j ↦ i ≤ j ∧ j ≤ size) ?_ ⟨Nat.le_refl _, hi⟩
  rintro k l ⟨hik, hk⟩ hkl
  obtain ⟨hle, hl⟩ := hR k l hk hkl
  exact ⟨Nat.le_trans hik hle, hl⟩

/-- Where no step runs backwards, the steps that go nowhere can be left out. -/
theorem Forward.exists_le_sub (hR : Forward size R) (hi : i ≤ size) (h : Times R n i j) :
    ∃ m ≤ j - i, Times R m i j := by
  induction n generalizing i with
  | zero => exact ⟨0, Nat.zero_le _, h⟩
  | succ n ih =>
    obtain ⟨k, hik, hkj⟩ := h
    obtain ⟨hle, hk⟩ := hR i k hi hik
    obtain ⟨hle', -⟩ := hR.times n k j hk hkj
    obtain ⟨m, hm, hmj⟩ := ih hk hkj
    rcases Nat.eq_or_lt_of_le hle with rfl | hlt
    · exact ⟨m, hm, hmj⟩
    · exact ⟨m + 1, by omega, k, hik, hmj⟩

/-! ### Sets of places -/

@[simp] theorem mem_mergePlaces (is js : List Nat) (i : Nat) :
    i ∈ mergePlaces is js ↔ i ∈ is ∨ i ∈ js := by
  induction is, js using mergePlaces.induct with
  | case1 js => simp [mergePlaces]
  | case2 is h => cases is <;> simp [mergePlaces]
  | case3 a is b js hab ih => simp [mergePlaces, hab, ih, or_assoc]
  | case4 a is b js hab hba ih => simp [mergePlaces, hab, hba, ih, or_left_comm]
  | case5 a is b js hab hba ih =>
    obtain rfl : a = b := by omega
    simp only [mergePlaces, hab, if_false, List.mem_cons, ih]
    exact or_or_distrib_left

/-- The function `step` leads to the places that `R` reaches, from places up to `size`. -/
def Moves (size : Nat) (R : Nat → Nat → Prop) (step : List Nat → List Nat) : Prop :=
  ∀ places, (∀ i ∈ places, i ≤ size) → ∀ j, j ∈ step places ↔ ∃ i ∈ places, R i j

theorem Moves.le_size (hstep : Moves size R step) (hR : Forward size R)
    (h : ∀ i ∈ places, i ≤ size) : ∀ j ∈ step places, j ≤ size := by
  intro j hj
  obtain ⟨i, hi, hij⟩ := (hstep places h j).1 hj
  exact (hR i j (h i hi) hij).2

/-- Places that `step` leads to places among them only are not left by repetition. -/
theorem Moves.mem_of_times (hstep : Moves size R step) (h : ∀ i ∈ places, i ≤ size)
    (hfixed : ∀ j ∈ step places, j ∈ places) (hi : i ∈ places) (hij : Times R n i j) :
    j ∈ places :=
  hij.preserves (P := (· ∈ places))
    (fun i j hi hij ↦ hfixed j ((hstep places h j).2 ⟨i, hi, hij⟩)) hi

theorem Moves.mem_stepTimes (hstep : Moves size R step) (hR : Forward size R) (n : Nat)
    (h : ∀ i ∈ places, i ≤ size) (j : Nat) :
    j ∈ stepTimes step n places ↔ ∃ i ∈ places, Times R n i j := by
  induction n generalizing places with
  | zero => simp [stepTimes, Times]
  | succ n ih =>
    have hmore : (∃ i ∈ places, Times R (n + 1) i j) ↔ ∃ i ∈ step places, Times R n i j := by
      constructor
      · rintro ⟨i, hi, k, hik, hkj⟩
        exact ⟨k, (hstep places h k).2 ⟨i, hi, hik⟩, hkj⟩
      · rintro ⟨k, hk, hkj⟩
        obtain ⟨i, hi, hik⟩ := (hstep places h k).1 hk
        exact ⟨i, hi, k, hik, hkj⟩
    rw [hmore, stepTimes]
    split
    · -- Nothing changes any more, so each place comes from a place by every number of steps.
      rename_i hfixed
      rw [← ih (hstep.le_size hR h), hfixed]
      cases n with
      | zero => rfl
      | succ n => exact (congrArg (j ∈ ·) (if_pos hfixed)).symm.to_iff
    · exact ih (hstep.le_size hR h)

theorem Moves.mem_stepUpTo (hstep : Moves size R step) (hR : Forward size R) (n : Nat)
    (h : ∀ i ∈ places, i ≤ size) (j : Nat) :
    j ∈ stepUpTo step n places ↔ ∃ k ≤ n, ∃ i ∈ places, Times R k i j := by
  induction n generalizing places with
  | zero => simp [stepUpTo, Times]
  | succ n ih =>
    have hle : ∀ i ∈ mergePlaces places (step places), i ≤ size := by
      intro i hi
      exact ((mem_mergePlaces _ _ i).1 hi).elim (h i) (hstep.le_size hR h i)
    rw [stepUpTo]
    split
    · rename_i hfixed
      have hclosed : ∀ j ∈ step places, j ∈ places := by
        intro j hj
        rw [← hfixed]
        exact (mem_mergePlaces _ _ j).2 (.inr hj)
      constructor
      · intro hj
        exact ⟨0, Nat.zero_le _, j, hj, rfl⟩
      · rintro ⟨k, -, i, hi, hij⟩
        exact hstep.mem_of_times h hclosed hi hij
    · rw [ih hle]
      constructor
      · rintro ⟨k, hk, i, hi, hij⟩
        rcases (mem_mergePlaces _ _ i).1 hi with hi | hi
        · exact ⟨k, Nat.le_succ_of_le hk, i, hi, hij⟩
        · obtain ⟨l, hl, hli⟩ := (hstep places h i).1 hi
          exact ⟨k + 1, Nat.succ_le_succ hk, l, hl, i, hli, hij⟩
      · rintro ⟨k, hk, i, hi, hij⟩
        cases k with
        | zero => exact ⟨0, Nat.zero_le n, i, (mem_mergePlaces _ _ i).2 (.inl hi), hij⟩
        | succ k =>
          obtain ⟨l, hil, hlj⟩ := hij
          have hl : l ∈ step places := (hstep places h l).2 ⟨i, hi, hil⟩
          exact ⟨k, Nat.le_of_succ_le_succ hk, l, (mem_mergePlaces _ _ l).2 (.inr hl), hlj⟩

/-! ### Matches -/

/-- The pattern leads from place `i` of `text` to place `j`. -/
def Matches (text : Array Char) : Pattern → Nat → Nat → Prop
  | empty, i, j => i = j
  | one set, i, j => (∃ c, text[i]? = some c ∧ set.has c.toNat) ∧ i + 1 = j
  | assertion a, i, j =>
    a.holds (if i = 0 then none else text[i - 1]?) text[i]? ∧ i = j
  | concat p q, i, j => ∃ k, Matches text p i k ∧ Matches text q k j
  | alternate p q, i, j => Matches text p i j ∨ Matches text q i j
  | repeated p least most, i, j =>
    ∃ n, least ≤ n ∧ (∀ m ∈ most, n ≤ max least m) ∧ Times (Matches text p) n i j

/-- The relation `Matches` runs forwards, and not beyond the end of the text. -/
theorem forward_matches (text : Array Char) (p : Pattern) : Forward text.size (Matches text p) := by
  induction p with
  | empty =>
    rintro i j hi rfl
    exact ⟨Nat.le_refl _, hi⟩
  | one set =>
    rintro i j - ⟨⟨c, hc, -⟩, rfl⟩
    obtain ⟨hlt, -⟩ := Array.getElem?_eq_some_iff.1 hc
    exact ⟨Nat.le_succ i, hlt⟩
  | assertion a =>
    rintro i j hi ⟨-, rfl⟩
    exact ⟨Nat.le_refl _, hi⟩
  | concat p q ihp ihq =>
    rintro i j hi ⟨k, hik, hkj⟩
    obtain ⟨hle, hk⟩ := ihp i k hi hik
    obtain ⟨hle', hj⟩ := ihq k j hk hkj
    exact ⟨Nat.le_trans hle hle', hj⟩
  | alternate p q ihp ihq =>
    rintro i j hi (hij | hij)
    · exact ihp i j hi hij
    · exact ihq i j hi hij
  | repeated p least most ih =>
    rintro i j hi ⟨n, -, -, hij⟩
    exact ih.times n i j hi hij

/-- A number of rounds between `least` and `most` is the least one and some more. -/
theorem exists_times_iff (R : Nat → Nat → Prop) (least : Nat) (most : Option Nat) (i j : Nat) :
    (∃ n, least ≤ n ∧ (∀ m ∈ most, n ≤ max least m) ∧ Times R n i j) ↔
      ∃ k, Times R least i k ∧ ∃ n, (∀ m ∈ most, n ≤ m - least) ∧ Times R n k j := by
  constructor
  · rintro ⟨n, hle, hmost, hij⟩
    obtain ⟨more, rfl⟩ := Nat.exists_eq_add_of_le hle
    obtain ⟨k, hik, hkj⟩ := (times_add R least more i j).1 hij
    exact ⟨k, hik, more, fun m hm ↦ by have := hmost m hm; omega, hkj⟩
  · rintro ⟨k, hik, more, hmost, hkj⟩
    refine ⟨least + more, Nat.le_add_right _ _, fun m hm ↦ ?_,
      (times_add R least more i j).2 ⟨k, hik, hkj⟩⟩
    have := hmost m hm
    omega

/-- The places that `advance` reaches from places of a text are those to which the pattern leads. -/
theorem mem_advance_iff (text : Array Char) (p : Pattern) :
    Moves text.size (Matches text p) (p.advance text) := by
  induction p with
  | empty => simp [Moves, advance, Matches]
  | one set =>
    intro places _ j
    rw [advance, List.mem_filterMap]
    refine exists_congr fun i ↦ and_congr_right fun _ ↦ ?_
    cases hc : text[i]? with
    | none => simp [Matches, hc]
    | some c => simp [Matches, hc]
  | assertion a =>
    intro places _ j
    rw [advance, List.mem_filter]
    constructor
    · rintro ⟨hj, hholds⟩
      exact ⟨j, hj, hholds, rfl⟩
    · rintro ⟨i, hi, hholds, rfl⟩
      exact ⟨hi, hholds⟩
  | concat p q ihp ihq =>
    intro places h j
    rw [advance, ihq _ (ihp.le_size (forward_matches text p) h)]
    constructor
    · rintro ⟨k, hk, hkj⟩
      obtain ⟨i, hi, hik⟩ := (ihp places h k).1 hk
      exact ⟨i, hi, k, hik, hkj⟩
    · rintro ⟨i, hi, k, hik, hkj⟩
      exact ⟨k, (ihp places h k).2 ⟨i, hi, hik⟩, hkj⟩
  | alternate p q ihp ihq =>
    intro places h j
    rw [advance, mem_mergePlaces, ihp places h, ihq places h, ← exists_or]
    exact exists_congr fun i ↦ and_or_left.symm
  | repeated p least most ih =>
    intro places h j
    have hforward := forward_matches text p
    have hreached := ih.mem_stepTimes hforward least h
    have hle : ∀ k ∈ stepTimes (p.advance text) least places, k ≤ text.size := by
      intro k hk
      obtain ⟨i, hi, hik⟩ := (hreached k).1 hk
      exact (hforward.times least i k (h i hi) hik).2
    simp only [Matches, exists_times_iff, advance]
    cases most with
    | some m =>
      dsimp only
      rw [ih.mem_stepUpTo hforward _ hle]
      simp only [hreached, Option.mem_some_iff, forall_eq']
      constructor
      · rintro ⟨n, hn, k, ⟨i, hi, hik⟩, hkj⟩
        exact ⟨i, hi, k, hik, n, hn, hkj⟩
      · rintro ⟨i, hi, k, hik, n, hn, hkj⟩
        exact ⟨n, hn, k, ⟨i, hi, hik⟩, hkj⟩
    | none =>
      dsimp only
      rw [ih.mem_stepUpTo hforward _ hle]
      simp only [hreached]
      constructor
      · rintro ⟨n, -, k, ⟨i, hi, hik⟩, hkj⟩
        exact ⟨i, hi, k, hik, n, nofun, hkj⟩
      · rintro ⟨i, hi, k, hik, n, -, hkj⟩
        -- Rounds that go nowhere are left out, so no more are needed than there are places.
        have hk : k ≤ text.size := hle k ((hreached k).2 ⟨i, hi, hik⟩)
        obtain ⟨m, hm, hmj⟩ := hforward.exists_le_sub hk hkj
        obtain ⟨-, hj⟩ := hforward.times n k j hk hkj
        exact ⟨m, by omega, k, ⟨i, hi, hik⟩, hmj⟩

/-- A pattern `occursIn` a text if it leads from one of its places to another. -/
theorem occursIn_iff (p : Pattern) (text : String) :
    p.occursIn text ↔
      ∃ i ≤ text.toList.length, ∃ j, Matches text.toList.toArray p i j := by
  have hle : ∀ i ∈ List.range (text.toList.length + 1), i ≤ text.toList.length :=
    fun i hi ↦ Nat.le_of_lt_succ (List.mem_range.1 hi)
  have hmem := mem_advance_iff text.toList.toArray p (List.range (text.toList.length + 1)) hle
  simp only [occursIn, Bool.not_eq_true', List.isEmpty_eq_false_iff_exists_mem]
  constructor
  · rintro ⟨j, hj⟩
    obtain ⟨i, hi, hij⟩ := (hmem j).1 hj
    exact ⟨i, hle i hi, j, hij⟩
  · rintro ⟨i, hi, j, hij⟩
    exact ⟨j, (hmem j).2 ⟨i, List.mem_range.2 (Nat.lt_succ_of_le hi), hij⟩⟩

theorem holds_textStart (text : Array Char) {i : Nat} (hi : i ≤ text.size) :
    Assertion.textStart.holds (if i = 0 then none else text[i - 1]?) text[i]? ↔ i = 0 := by
  simp only [Assertion.holds]
  by_cases h : i = 0
  · simp [h]
  · have hlt : i - 1 < text.size := by omega
    simp [h, hlt]

theorem holds_textEnd (text : Array Char) {i : Nat} (hi : i ≤ text.size) :
    Assertion.textEnd.holds (if i = 0 then none else text[i - 1]?) text[i]? ↔ i = text.size := by
  simp only [Assertion.holds, Option.isNone_iff_eq_none, Array.getElem?_eq_none_iff]
  omega

/-- The first of some `concats` leads to where the others lead from. -/
theorem matches_concats_cons (text : Array Char) (p : Pattern) (ps : List Pattern) (i k : Nat) :
    Matches text (concats (p :: ps)) i k ↔
      ∃ j, Matches text p i j ∧ Matches text (concats ps) j k := by
  cases ps with
  | nil =>
    constructor
    · intro h
      exact ⟨k, h, rfl⟩
    · rintro ⟨j, h, rfl⟩
      exact h
  | cons q qs => exact Iff.rfl

end AssessmentItem.Pattern
