import Mathlib.Data.Fintype.EquivFin
import Mathlib.Data.List.FinRange
import Mathlib.Data.Multiset.ZeroCons
import AssessmentItem.Value.Container

/-!
# Matching members

Two lists are compared as multisets by striking the members of the one off against equal members of
the other, the first equal one each time.  For an equality that is symmetric and transitive the
choice does not matter: a member that another choice would have taken is equal to the one that was
taken, so their partners can be exchanged.  The lists are then equal exactly if some bijection
between their positions pairs equal members.

## Main definitions

* `sameMultisetBy` : the comparison of two lists under any equality of members.

## Main results

* `rel_cons_cons_iff` : equal members can be struck off.
* `rel_coe_iff_exists_equiv` : related multisets of lists, said of the positions.
* `sameMultisetBy_iff_rel` : the comparison finds a matching wherever there is one.
-/

namespace AssessmentItem

/-! ### Related multisets -/

section Related

variable {α : Type} {r : α → α → Prop}

/-- Members with `r s t` can be struck off on both sides. -/
theorem rel_cons_cons_iff (symm : ∀ x y, r x y → r y x)
    (trans : ∀ x y z, r x y → r y z → r x z) {s t : α} (hst : r s t) {a b : Multiset α} :
    Multiset.Rel r (s ::ₘ a) (t ::ₘ b) ↔ Multiset.Rel r a b := by
  refine ⟨fun h ↦ ?_, fun h ↦ h.cons hst⟩
  obtain ⟨t', b', hst', hab', hcons⟩ := Multiset.rel_cons_left.1 h
  rcases Multiset.cons_eq_cons.1 hcons with ⟨-, rfl⟩ | ⟨-, c, rfl, rfl⟩
  · exact hab'
  -- `s` has another partner `t'`; the partner of `t` takes it over
  · obtain ⟨u, a', hut, hac, rfl⟩ := Multiset.rel_cons_right.1 hab'
    exact hac.cons (trans u t t' hut (trans t s t' (symm s t hst) hst'))

/-- A list is its members at all positions, as `get` gives them. -/
theorem coe_eq_map_get (a : List α) : (a : Multiset α) = Finset.univ.val.map a.get := by
  rw [Fin.univ_val_map, List.ofFn_get]

/-- Lists that are related as multisets are related member by member, once the second is put into
another order. -/
theorem exists_forall₂_of_rel {β : Type} {r : α → β → Prop} :
    {a : List α} → {b : List β} → Multiset.Rel r (a : Multiset α) (b : Multiset β) →
    ∃ b', List.Forall₂ r a b' ∧ b'.Perm b
  | [], b, h => by
      rw [Multiset.coe_nil, Multiset.rel_zero_left, Multiset.coe_eq_zero] at h
      exact ⟨[], .nil, h ▸ .refl _⟩
  | s :: a, b, h => by
      rw [← Multiset.cons_coe] at h
      obtain ⟨t, rest, hst, hrest, hb⟩ := Multiset.rel_cons_left.1 h
      obtain ⟨rest, rfl⟩ := Quot.exists_rep rest
      obtain ⟨b', hforall, hperm⟩ := exists_forall₂_of_rel hrest
      refine ⟨t :: b', .cons hst hforall, (hperm.cons t).trans ?_⟩
      exact (Multiset.coe_eq_coe.1 hb).symm

/-- Lists are related as multisets exactly if a bijection of their positions pairs related
members. -/
theorem rel_coe_iff_exists_equiv {a b : List α} :
    Multiset.Rel r (a : Multiset α) (b : Multiset α) ↔
      ∃ σ : Fin a.length ≃ Fin b.length, ∀ i, r (a.get i) (b.get (σ i)) := by
  rw [coe_eq_map_get b, Multiset.rel_map_right]
  constructor
  · intro h
    -- the positions of `b` in the order of their partners in `a`
    obtain ⟨positions, hforall, hperm⟩ :=
      exists_forall₂_of_rel (b := List.finRange b.length) h
    have hnodup : positions.Nodup := hperm.nodup_iff.2 (List.nodup_finRange _)
    have hall (j : Fin b.length) : j ∈ positions := hperm.mem_iff.2 (List.mem_finRange j)
    refine ⟨(finCongr hforall.length_eq).trans (hnodup.getEquivOfForallMemList _ hall),
      fun i ↦ ?_⟩
    exact hforall.get i.isLt (hforall.length_eq ▸ i.isLt)
  · rintro ⟨σ, hσ⟩
    rw [coe_eq_map_get a, Multiset.rel_map_left, ← Multiset.map_univ_val_equiv σ,
      Multiset.rel_map_right]
    exact Multiset.rel_refl_of_refl_on fun i _ ↦ hσ i

end Related

/-! ### Related lists -/

section Lists

variable {α : Type}

theorem isEqv_iff_forall₂ {equal : α → α → Bool} :
    {a b : List α} → a.isEqv b equal ↔ List.Forall₂ (equal · ·) a b
  | [], [] => by simp [List.isEqv]
  | [], _ :: _ | _ :: _, [] => by simp [List.isEqv]
  | s :: a, t :: b => by
      rw [List.isEqv, Bool.and_eq_true, List.forall₂_cons, isEqv_iff_forall₂ (a := a)]

theorem forall₂_symm {r : α → α → Prop} (symm : ∀ x y, r x y → r y x) {a b : List α}
    (h : List.Forall₂ r a b) : List.Forall₂ r b a :=
  .flip (h.imp symm)

theorem forall₂_trans {r : α → α → Prop} (trans : ∀ x y z, r x y → r y z → r x z) :
    {a b c : List α} → List.Forall₂ r a b → List.Forall₂ r b c → List.Forall₂ r a c
  | [], [], [], .nil, .nil => .nil
  | x :: _, y :: _, z :: _, .cons hxy hab, .cons hyz hbc =>
      .cons (trans x y z hxy hyz) (forall₂_trans trans hab hbc)

/-- A run of a list is related to the run of the other list at its place. -/
theorem exists_infix_of_forall₂ {r : α → α → Prop} {a b run : List α}
    (h : List.Forall₂ r a b) (hrun : run <:+: a) :
    ∃ run', run' <:+: b ∧ List.Forall₂ r run run' := by
  obtain ⟨before, after, rfl⟩ := hrun
  refine ⟨(b.drop before.length).take run.length,
    (List.take_prefix ..).isInfix.trans (List.drop_suffix ..).isInfix, ?_⟩
  have htake := List.forall₂_take run.length (List.forall₂_drop before.length h)
  simpa only [List.append_assoc, List.drop_left, List.take_left] using htake

end Lists

/-! ### Striking off -/

section Strike

variable {accepts : Scalar → Bool}

theorem strike?_eq_none_iff : {l : List Scalar} →
    strike? accepts l = none ↔ ∀ t ∈ l, accepts t = false
  | [] => by simp [strike?]
  | t :: l => by
      rw [strike?, List.forall_mem_cons, ← strike?_eq_none_iff (l := l)]
      cases accepts t <;> simp

/-- The member that `strike?` takes is one it `accepts`, and the others are left. -/
theorem exists_perm_of_strike? : {l rest : List Scalar} → strike? accepts l = some rest →
    ∃ t, accepts t = true ∧ l.Perm (t :: rest)
  | [], _, h => nomatch h
  | t :: l, rest, h => by
      rw [strike?] at h
      split at h
      · rename_i haccepts
        obtain rfl := Option.some.inj h
        exact ⟨t, haccepts, .refl _⟩
      · obtain ⟨rest', hrest', rfl⟩ := Option.map_eq_some_iff.1 h
        obtain ⟨u, hu, hperm⟩ := exists_perm_of_strike? hrest'
        exact ⟨u, hu, (hperm.cons t).trans (.swap u t rest')⟩

end Strike

/-! ### Equality as multisets -/

/-- Whether two lists have equal members with the same multiplicities, under the equality `equal` of
members. -/
def sameMultisetBy (equal : Scalar → Scalar → Bool) (a b : List Scalar) : Bool :=
  a.length == b.length && strikeAll a b
where
  /-- Strikes the members of the first list off against those of the second that are `equal` to
  them. -/
  strikeAll : List Scalar → List Scalar → Bool
    | [], _ => true
    | s :: a, b =>
      match strike? (equal s) b with
      | some rest => strikeAll a rest
      | none => false

theorem sameMultiset_eq (a b : List Scalar) :
    sameMultiset a b = sameMultisetBy (· == ·) a b := by
  have strikeAll_eq : (a b : List Scalar) →
      sameMultiset.strikeAll a b = sameMultisetBy.strikeAll (· == ·) a b := by
    intro a
    induction a with
    | nil => intro b; rfl
    | cons s a ih =>
      intro b
      rw [sameMultiset.strikeAll, sameMultisetBy.strikeAll]
      cases strike? (fun t ↦ s == t) b with
      | none => rfl
      | some rest => exact ih rest
  rw [sameMultiset, sameMultisetBy, strikeAll_eq]

section Same

variable {equal : Scalar → Scalar → Bool}

/-- With `sameMultisetBy` lists are compared as multisets under `equal`. -/
theorem sameMultisetBy_iff_rel (symm : ∀ s t, equal s t → equal t s)
    (trans : ∀ s t u, equal s t → equal t u → equal s u) (a b : List Scalar) :
    sameMultisetBy equal a b ↔ Multiset.Rel (equal · ·) (a : Multiset Scalar) b := by
  rw [sameMultisetBy, Bool.and_eq_true, beq_iff_eq]
  induction a generalizing b with
  | nil =>
    rw [sameMultisetBy.strikeAll, Multiset.coe_nil, Multiset.rel_zero_left, Multiset.coe_eq_zero]
    simp [eq_comm]
  | cons s a ih =>
    rw [sameMultisetBy.strikeAll, ← Multiset.cons_coe]
    split
    · rename_i rest hrest
      obtain ⟨t, hst, hperm⟩ := exists_perm_of_strike? hrest
      rw [Multiset.coe_eq_coe.2 hperm, ← Multiset.cons_coe, rel_cons_cons_iff symm trans hst, ← ih,
        hperm.length_eq, List.length_cons, List.length_cons, Nat.add_right_cancel_iff]
    · rename_i hnone
      refine ⟨fun h ↦ absurd h.2 Bool.false_ne_true, fun h ↦ ?_⟩
      obtain ⟨t, ht, hst⟩ := Multiset.exists_mem_of_rel_of_mem h (Multiset.mem_cons_self s _)
      rw [strike?_eq_none_iff.1 hnone t ht] at hst
      exact absurd hst Bool.false_ne_true

end Same

end AssessmentItem
