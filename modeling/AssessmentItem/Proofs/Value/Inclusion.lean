import AssessmentItem.Evaluation.Containers
import AssessmentItem.Proofs.Value.Equality

/-!
# Parts of lists

A list of scalars is a part of another one in two ways: as a multiset, whose members are struck off
against equal members, or as a run of neighbours that are equal to its members.  Both are
transitive, lists that are parts of each other are equal in the same way, and to be a member is to
be a part with one member.

## Main results

* `includesMultiset_iff_count_le` : inclusion as a comparison of multiplicities.
* `sameMultiset_iff_includes` : multisets are equal exactly if they include each other.
* `Evaluation.includesRun_iff` : the runs of a list.
* `Evaluation.includesRun_trans`, `Evaluation.beq_iff_includesRun` : the same laws for runs.
-/

namespace AssessmentItem

/-! ### Inclusion of multisets -/

/-- One member is struck off exactly if `outer` has an equal one. -/
theorem includesMultiset_singleton (outer : List Scalar) (s : Scalar) :
    includesMultiset outer [s] = outer.any (· == s) := by
  rw [includesMultiset]
  split
  · rename_i rest hrest
    obtain ⟨t, ht, hperm⟩ := exists_perm_of_strike? hrest
    exact (List.any_eq_true.2 ⟨t, hperm.mem_iff.2 List.mem_cons_self, ht⟩).symm
  · rename_i hnone
    rw [eq_comm, List.any_eq_false]
    exact fun t ht h ↦ by simp [strike?_eq_none_iff.1 hnone t ht] at h

/-- A list `inner` whose members are equal to themselves is included exactly if no scalar occurs in
it more often than in `outer`. -/
theorem includesMultiset_iff_count_le {outer inner : List Scalar} (hself : ∀ s ∈ inner, s == s) :
    includesMultiset outer inner ↔ ∀ s, inner.count s ≤ outer.count s := by
  induction inner generalizing outer with
  | nil => simp [includesMultiset]
  | cons s inner ih =>
    rw [List.forall_mem_cons] at hself
    rw [includesMultiset]
    split
    · rename_i rest hrest
      obtain ⟨t, hts, hperm⟩ := exists_perm_of_strike? hrest
      rw [ih hself.2]
      refine forall_congr' fun u ↦ ?_
      rw [hperm.count_eq, List.count_cons, List.count_cons, BEq.congr_left hts]
      omega
    · rename_i hnone
      refine ⟨fun h ↦ absurd h Bool.false_ne_true, fun h ↦ ?_⟩
      have hcount := h s
      rw [List.count_cons, if_pos hself.1] at hcount
      obtain ⟨t, ht, hts⟩ := List.countP_pos_iff.1 (Nat.lt_of_lt_of_le (Nat.succ_pos _) hcount)
      rw [strike?_eq_none_iff.1 hnone t ht] at hts
      exact hts

theorem length_le_of_includesMultiset {outer inner : List Scalar}
    (h : includesMultiset outer inner) : inner.length ≤ outer.length := by
  induction inner generalizing outer with
  | nil => exact Nat.zero_le _
  | cons s inner ih =>
    rw [includesMultiset] at h
    split at h
    · rename_i rest hrest
      obtain ⟨t, -, hperm⟩ := exists_perm_of_strike? hrest
      rw [hperm.length_eq]
      exact Nat.succ_le_succ (ih h)
    · exact absurd h Bool.false_ne_true

/-- What `sameMultiset` compares is inclusion in one direction between lists of one length. -/
theorem sameMultiset_eq_includes (a b : List Scalar) :
    sameMultiset a b = (a.length == b.length && includesMultiset b a) := by
  rw [sameMultiset]
  congr 1
  induction a generalizing b with
  | nil => rfl
  | cons s a ih =>
    simp only [sameMultiset.strikeAll, includesMultiset, BEq.comm (a := s)]
    split
    · exact ih _
    · rfl

theorem sameMultiset_comm (a b : List Scalar) : sameMultiset a b = sameMultiset b a := by
  have symm (s t : Scalar) : s == t → t == s := BEq.symm
  have trans (s t u : Scalar) : s == t → t == u → s == u := BEq.trans
  rw [Bool.eq_iff_iff, sameMultiset_eq, sameMultiset_eq, sameMultisetBy_iff_rel symm trans,
    sameMultisetBy_iff_rel symm trans, ← Multiset.rel_flip]
  simp only [Function.flip_def, BEq.comm]

/-- Lists have `sameMultiset` exactly if they include each other. -/
theorem sameMultiset_iff_includes {a b : List Scalar} :
    sameMultiset a b ↔ includesMultiset a b ∧ includesMultiset b a := by
  constructor
  · intro h
    have h' := sameMultiset_comm a b ▸ h
    rw [sameMultiset_eq_includes, Bool.and_eq_true] at h h'
    exact ⟨h'.2, h.2⟩
  · intro h
    rw [sameMultiset_eq_includes, Bool.and_eq_true, beq_iff_eq]
    exact ⟨(length_le_of_includesMultiset h.1).antisymm' (length_le_of_includesMultiset h.2), h.2⟩

/-! ### Runs -/

theorem beq_iff_forall₂ {a b : List Scalar} : a == b ↔ List.Forall₂ (· == ·) a b := by
  change a.beq b ↔ _
  rw [List.beq_eq_isEqv, isEqv_iff_forall₂]

namespace Evaluation

theorem isPrefixOf_iff : {inner outer : List Scalar} →
    inner.isPrefixOf outer ↔ ∃ run, run <+: outer ∧ List.Forall₂ (· == ·) inner run
  | [], outer => by simp
  | s :: inner, [] => by simp
  | s :: inner, t :: outer => by
      rw [List.isPrefixOf, Bool.and_eq_true, isPrefixOf_iff]
      constructor
      · rintro ⟨hst, run, hrun, hforall⟩
        exact ⟨t :: run, List.cons_prefix_cons.2 ⟨rfl, hrun⟩, .cons hst hforall⟩
      · rintro ⟨_, hrun, hforall⟩
        cases hforall with
        | cons hst hforall =>
          obtain ⟨rfl, hprefix⟩ := List.cons_prefix_cons.1 hrun
          exact ⟨hst, _, hprefix, hforall⟩

/-- With `includesRun` a list is found exactly if a run of the other one is equal to it. -/
theorem includesRun_iff {inner outer : List Scalar} :
    includesRun inner outer ↔ ∃ run, run <:+: outer ∧ List.Forall₂ (· == ·) inner run := by
  induction outer with
  | nil => cases inner <;> simp [includesRun]
  | cons s outer ih =>
    rw [includesRun, Bool.or_eq_true, isPrefixOf_iff, ih, ← exists_or]
    simp only [List.infix_cons_iff, or_and_right]

theorem includesRun_singleton (s : Scalar) (outer : List Scalar) :
    includesRun [s] outer = outer.any (· == s) := by
  induction outer with
  | nil => rfl
  | cons t outer ih =>
    rw [includesRun, List.any_cons, ih, List.isPrefixOf, List.isPrefixOf, Bool.and_true, BEq.comm]

theorem length_le_of_includesRun {inner outer : List Scalar} (h : includesRun inner outer) :
    inner.length ≤ outer.length := by
  obtain ⟨run, hrun, hforall⟩ := includesRun_iff.1 h
  exact hforall.length_eq ▸ hrun.length_le

theorem includesRun_trans {a b c : List Scalar} (h : includesRun b a) (h' : includesRun c b) :
    includesRun c a := by
  rw [includesRun_iff] at h h' ⊢
  obtain ⟨run, hrun, hforall⟩ := h
  obtain ⟨run', hrun', hforall'⟩ := h'
  -- the run of `b` that is `c` stands at the same place in the run of `a` that is `b`
  obtain ⟨part, hpart, hequal⟩ := exists_infix_of_forall₂ hforall hrun'
  have trans (s t u : Scalar) : s == t → t == u → s == u := BEq.trans
  exact ⟨part, hpart.trans hrun, forall₂_trans trans hforall' hequal⟩

/-- Lists are equal exactly if each `includesRun` of the other. -/
theorem beq_iff_includesRun {a b : List Scalar} :
    a == b ↔ includesRun b a ∧ includesRun a b := by
  rw [beq_iff_forall₂]
  constructor
  · intro h
    rw [includesRun_iff, includesRun_iff]
    exact ⟨⟨a, List.infix_rfl, forall₂_symm (fun _ _ h ↦ BEq.symm h) h⟩, b, List.infix_rfl, h⟩
  · rintro ⟨hb, ha⟩
    obtain ⟨run, hrun, hforall⟩ := includesRun_iff.1 ha
    have hlength : run.length = b.length :=
      hrun.length_le.antisymm (hforall.length_eq ▸ length_le_of_includesRun hb)
    rwa [← hrun.eq_of_length hlength]

end Evaluation

end AssessmentItem
