import AssessmentItem.Proofs.Evaluation.Signatures
import AssessmentItem.Proofs.Value.Inclusion

/-!
# How the operators on containers agree

Equality, inclusion, membership and deletion search the members of a container in four ways.  On
containers of one cardinality and of one base type, whose scalars are all equal to themselves, they
follow one notion of what is in a container: containers are equal exactly if each is a part of the
other, a member is a part with one member, and a deletion leaves the members that are not equal to
the deleted one, so that the number of members goes down by their number.

## Main definitions

* `Value.IsContainer` : containers of a base type and a cardinality.
* `Evaluation.includes` : the parts of a list, in the way of a cardinality.
* `Evaluation.Holds` : an operator gives true.
* `Evaluation.ContainerLaws` : the agreement of the operators.

## Main results

* `Evaluation.combine_contains`, `Evaluation.combine_same`, `Evaluation.combine_member`,
  `Evaluation.exists_combine_delete` : what the operators compute.
* `Evaluation.containerLaws` : the operators agree.
-/

namespace AssessmentItem

/-! ### Containers of a type -/

/-- The value is a container of the base type `t` and of a cardinality. -/
inductive Value.IsContainer (t : BaseType) : Cardinality → Value → Prop
  | multiple {c : Container} (h : c.baseType = t) : IsContainer t .multiple (.multiple c)
  | ordered {c : Container} (h : c.baseType = t) : IsContainer t .ordered (.ordered c)

namespace Value.IsContainer

variable {t : BaseType} {k : Cardinality} {v : Value}

theorem mem_containers (h : v.IsContainer t k) : k ∈ Signature.containers := by
  cases h <;> decide

theorem cardinality? (h : v.IsContainer t k) : v.cardinality? = some k := by
  cases h <;> rfl

theorem baseType? (h : v.IsContainer t k) : v.baseType? = some t := by
  cases h with
  | multiple h | ordered h => exact congrArg some h

theorem baseType_of_mem (h : v.IsContainer t k) {s : Scalar} (hs : s ∈ v.members) :
    s.baseType = t := by
  cases h with
  | @multiple c h | @ordered c h => exact (c.uniform s hs).trans h

/-- The members are equal to themselves unless `t` is `.float` or `.duration`. -/
theorem beq_self_of_mem (h : v.IsContainer t k) (hfloat : t ≠ .float) (hduration : t ≠ .duration) :
    ∀ s ∈ v.members, s == s := by
  intro s hs
  have hbase := h.baseType_of_mem hs
  apply Scalar.beq_self_of_float?
  cases s with
  | float x => exact absurd hbase.symm hfloat
  | duration x => exact absurd hbase.symm hduration
  | _ => rfl

/-- A `signature` admits the containers of a cardinality and a base type that it names. -/
theorem admits {signature : Signature} (h : v.IsContainer t k)
    (hk : k ∈ signature.cardinalities) (ht : signature.baseTypes.accepts t) :
    signature.Admits v := by
  rintro _ hcardinality
  rw [h.cardinality?, Option.some.injEq] at hcardinality
  refine ⟨hcardinality ▸ hk, fun _ hbase ↦ ?_⟩
  rw [h.baseType?, Option.some.injEq] at hbase
  exact hbase ▸ ht

end Value.IsContainer

namespace Evaluation

variable {store : Store} {k : Cardinality} {t : BaseType} {a b c : Value} {x : Scalar}

/-- Whether `inner` is a part of `outer`, in the way of the cardinality `k`. -/
def includes (k : Cardinality) (outer inner : List Scalar) : Bool :=
  if k = .ordered then includesRun inner outer else includesMultiset outer inner

theorem checkSame (ha : a.IsContainer t k) (hb : b.IsContainer t k) :
    checkSameCardinality a b = .ok () ∧ checkSameBaseType a b = .ok () := by
  rw [checkSameCardinality, checkSameBaseType, ha.cardinality?, hb.cardinality?, ha.baseType?,
    hb.baseType?]
  simp

theorem combine_contains (ha : a.IsContainer t k) (hb : b.IsContainer t k) :
    combine store .contains [a, b] = .ok (.boolean (includes k a.members b.members)) := by
  change containsPart a b = _
  unfold containsPart
  rw [(checkSame ha hb).1, (checkSame ha hb).2]
  cases ha <;> cases hb <;> rfl

/-- Containers are equal exactly if each `includes` the other. -/
theorem beq_eq_includes (ha : a.IsContainer t k) (hb : b.IsContainer t k) :
    (a == b) = (includes k a.members b.members && includes k b.members a.members) := by
  rw [Bool.eq_iff_iff, Bool.and_eq_true]
  cases ha with
  | @multiple c hc =>
    cases hb with
    | @multiple d hd =>
      change (c.baseType == d.baseType && sameMultiset c.members d.members) = true ↔ _
      rw [Bool.and_eq_true, beq_iff_eq, sameMultiset_iff_includes]
      exact and_iff_right (hc.trans hd.symm)
  | @ordered c hc =>
    cases hb with
    | @ordered d hd =>
      change (c.baseType == d.baseType && c.members == d.members) = true ↔ _
      rw [Bool.and_eq_true, beq_iff_eq, beq_iff_includesRun]
      exact and_iff_right (hc.trans hd.symm)

theorem combine_same (ha : a.IsContainer t k) (hb : b.IsContainer t k) :
    combine store .same [a, b] =
      .ok (.boolean (includes k a.members b.members && includes k b.members a.members)) := by
  change sameValue a b = _
  rw [sameValue, (checkSame ha hb).1, (checkSame ha hb).2, ← beq_eq_includes ha hb]
  rfl

theorem readMemberAndContainer_eq (ha : a.IsContainer t k) (hx : x.baseType = t) :
    ∃ c, readMemberAndContainer (.single x) a = .ok (x, c) ∧ c.members = a.members := by
  cases ha with
  | @multiple c hc | @ordered c hc =>
    refine ⟨c, ?_, rfl⟩
    change (if c.baseType = x.baseType then _ else _) = _
    rw [if_pos (hc.trans hx.symm)]

theorem combine_member (ha : a.IsContainer t k) (hx : x.baseType = t) :
    combine store .member [.single x, a] = .ok (.boolean (a.members.any (· == x))) := by
  obtain ⟨c, hread, hmembers⟩ := readMemberAndContainer_eq ha hx
  change memberOf (.single x) a = _
  rw [memberOf, hread, ← hmembers]
  rfl

/-- The `members`, of base type `t`, make up a container `v`, or `.null` where there are none. -/
structure IsRebuilt (t : BaseType) (k : Cardinality) (members : List Scalar) (v : Value) :
    Prop where
  members : v.members = members
  null : v.members = [] → v = .null
  isContainer : v.members ≠ [] → v.IsContainer t k

theorem exists_ofMembers {members : List Scalar} (h : ∀ s ∈ members, s.baseType = t) :
    ∃ c, Container.ofMembers t members = .ok c ∧ c.baseType = t ∧ c.members = members := by
  unfold Container.ofMembers
  split
  · rename_i bad hbad
    have hfound := List.find?_some hbad
    simp [h bad (List.mem_of_find?_eq_some hbad)] at hfound
  · exact ⟨_, rfl, rfl, rfl⟩

theorem exists_container (ha : a.IsContainer t k) {members : List Scalar}
    (h : ∀ s ∈ members, s.baseType = t) :
    ∃ v, Value.container k t members = .ok v ∧ IsRebuilt t k members v := by
  obtain ⟨c, hc, hbase, rfl⟩ := exists_ofMembers h
  by_cases hempty : c.isEmpty
  · refine ⟨.null, ?_, (List.isEmpty_iff.1 hempty).symm, fun _ ↦ rfl, fun h ↦ absurd rfl h⟩
    simp only [Value.container, hc]
    exact if_pos hempty
  · have hne : c.members ≠ [] := fun h ↦ hempty (List.isEmpty_iff.2 h)
    cases ha with
    | multiple =>
      refine ⟨.multiple c, ?_, rfl, fun h ↦ absurd h hne, fun _ ↦ .multiple hbase⟩
      simp only [Value.container, hc]
      exact if_neg hempty
    | ordered =>
      refine ⟨.ordered c, ?_, rfl, fun h ↦ absurd h hne, fun _ ↦ .ordered hbase⟩
      simp only [Value.container, hc]
      exact if_neg hempty

/-- With `.delete` the members are left that are not equal to the deleted one. -/
theorem exists_combine_delete (store : Store) (ha : a.IsContainer t k) (hx : x.baseType = t) :
    ∃ v, combine store .delete [.single x, a] = .ok v ∧
      IsRebuilt t k (a.members.filter fun s ↦ !(s == x)) v := by
  obtain ⟨c, hread, hmembers⟩ := readMemberAndContainer_eq ha hx
  have hrest : ∀ s ∈ a.members.filter (fun s ↦ !(s == x)), s.baseType = t :=
    fun s hs ↦ ha.baseType_of_mem (List.mem_of_mem_filter hs)
  obtain ⟨v, hv, hrebuilt⟩ := exists_container ha hrest
  refine ⟨v, ?_, hrebuilt⟩
  change deleteFrom (.single x) a = _
  subst hx
  rw [deleteFrom, hread, ha.cardinality?, ← hmembers] at *
  change (Value.container k x.baseType (c.members.filter fun s ↦ !(s == x))).mapError _ = _
  rw [hv]
  rfl

theorem combine_containerSize (ha : a = .null ∨ a.IsContainer t k) :
    combine store .containerSize [a] = .ok (.integer (Int64.ofNat a.members.length)) := by
  obtain rfl | ha := ha
  · rfl
  · cases ha <;> rfl

/-! ### Agreement -/

/-- The operator `op` gives true. -/
def Holds (store : Store) (op : Operator) (vs : List Value) : Prop :=
  combine store op vs = .ok (.boolean true)

/-- The operators `.same`, `.contains`, `.member` and `.delete` agree on the containers of a base
type and a cardinality. -/
structure ContainerLaws (store : Store) (t : BaseType) (k : Cardinality) : Prop where
  /-- Each comparison, `.same` and `.contains`, has an answer. -/
  decided {a b : Value} : a.IsContainer t k → b.IsContainer t k →
    ∀ op ∈ [Operator.same, .contains], ∃ r, combine store op [a, b] = .ok (.boolean r)
  same_iff {a b : Value} : a.IsContainer t k → b.IsContainer t k →
    (Holds store .same [a, b] ↔ Holds store .contains [a, b] ∧ Holds store .contains [b, a])
  contains_self {a : Value} : a.IsContainer t k → Holds store .contains [a, a]
  contains_trans {a b c : Value} :
    a.IsContainer t k → b.IsContainer t k → c.IsContainer t k →
    Holds store .contains [a, b] → Holds store .contains [b, c] → Holds store .contains [a, c]
  contains_ordered {a b : Value} : k = .ordered → a.IsContainer t k → b.IsContainer t k →
    (Holds store .contains [a, b] ↔ ∃ run, run <:+: a.members ∧ b.members == run)
  contains_multiple {a b : Value} : k = .multiple → a.IsContainer t k → b.IsContainer t k →
    (Holds store .contains [a, b] ↔ ∀ s, b.members.count s ≤ a.members.count s)
  /-- For `.member` to hold is to be a part with one member. -/
  member_eq {a : Value} {x : Scalar} : a.IsContainer t k → x.baseType = t →
    ∃ c, Value.container k t [x] = .ok c ∧ IsRebuilt t k [x] c ∧
      combine store .member [.single x, a] = combine store .contains [a, c]
  /-- With `.delete` the other members are left in their order, and `.null` where there is none. -/
  delete {a : Value} {x : Scalar} : a.IsContainer t k → x.baseType = t →
    ∃ v, combine store .delete [.single x, a] = .ok v ∧
      IsRebuilt t k (a.members.filter fun s ↦ !(s == x)) v ∧
      combine store .containerSize [v] = .ok (.integer (Int64.ofNat v.members.length)) ∧
      combine store .containerSize [a] =
        .ok (.integer (Int64.ofNat (v.members.length + a.members.count x)))
  /-- In an expression the operators are applied to containers with members as they are, by
  `applyOperator`. -/
  applied {a b : Value} {x : Scalar} : a.IsContainer t k → b.IsContainer t k →
    a.isNull = false → b.isNull = false → x.baseType = t →
    (∀ op ∈ [Operator.same, .contains],
      applyOperator store op [a, b] = settled (combine store op [a, b])) ∧
    ∀ op ∈ [Operator.member, .delete],
      applyOperator store op [.single x, a] = settled (combine store op [.single x, a])
  applied_size {a : Value} : a = .null ∨ a.IsContainer t k →
    applyOperator store .containerSize [a] = settled (combine store .containerSize [a])

theorem holds_contains_iff (ha : a.IsContainer t k) (hb : b.IsContainer t k) :
    Holds store .contains [a, b] ↔ includes k a.members b.members := by
  rw [Holds, combine_contains ha hb]
  simp [Value.boolean]

theorem holds_same_iff (ha : a.IsContainer t k) (hb : b.IsContainer t k) :
    Holds store .same [a, b] ↔
      includes k a.members b.members ∧ includes k b.members a.members := by
  rw [Holds, combine_same ha hb]
  simp [Value.boolean]

theorem includes_singleton (k : Cardinality) (outer : List Scalar) (s : Scalar) :
    includes k outer [s] = outer.any (· == s) := by
  unfold includes
  split
  · exact includesRun_singleton s outer
  · exact includesMultiset_singleton outer s

theorem includes_self (k : Cardinality) {l : List Scalar} (hself : ∀ s ∈ l, s == s) :
    includes k l l := by
  unfold includes
  split
  · exact includesRun_iff.2 ⟨l, List.infix_rfl, List.forall₂_same.2 hself⟩
  · exact (includesMultiset_iff_count_le hself).2 fun _ ↦ le_rfl

theorem includes_trans (k : Cardinality) {l m n : List Scalar} (hm : ∀ s ∈ m, s == s)
    (hn : ∀ s ∈ n, s == s) (h : includes k l m) (h' : includes k m n) : includes k l n := by
  unfold includes at h h' ⊢
  split at h
  · rename_i hk
    rw [if_pos hk] at h' ⊢
    exact includesRun_trans h h'
  · rename_i hk
    rw [if_neg hk, includesMultiset_iff_count_le hn] at h' ⊢
    rw [includesMultiset_iff_count_le hm] at h
    exact fun s ↦ (h' s).trans (h s)

/-- What is deleted and what is left make up the container. -/
theorem length_filter_add_count (l : List Scalar) (x : Scalar) :
    (l.filter fun s ↦ !(s == x)).length + l.count x = l.length := by
  rw [List.count, List.countP_eq_length_filter, Nat.add_comm]
  exact (List.length_eq_length_filter_add fun s ↦ s == x).symm

section Application

variable (hfloat : t ≠ .float) (hduration : t ≠ .duration)

include hfloat hduration

theorem exact_accepts : BaseTypes.exact.accepts t := by
  simp [BaseTypes.exact, BaseTypes.accepts, hfloat, hduration]

theorem applyOperator_comparison {op : Operator} (hop : op ∈ [Operator.same, .contains])
    (ha : a.IsContainer t k) (hb : b.IsContainer t k) (hnull : a.isNull = false)
    (hnull' : b.isNull = false) :
    applyOperator store op [a, b] = settled (combine store op [a, b]) := by
  have hadmits : op ≠ .random ∧ ∀ v : Value, v.IsContainer t k → op.signature.Admits v := by
    simp only [List.mem_cons, List.not_mem_nil, or_false] at hop
    obtain rfl | rfl := hop
    · refine ⟨nofun, fun v hv ↦ hv.admits ?_ (exact_accepts hfloat hduration)⟩
      cases hv <;> decide
    · refine ⟨nofun, fun v hv ↦ hv.admits hv.mem_containers ?_⟩
      simp [Operator.signature, Signature.strict, BaseTypes.accepts, hduration]
  refine applyOperator_eq_settled hadmits.1 (fun _ ↦ ?_) ?_
  · simp [hnull, hnull']
  · simp [hadmits.2 a ha, hadmits.2 b hb]

theorem applyOperator_search {op : Operator} (hop : op ∈ [Operator.member, .delete])
    (ha : a.IsContainer t k) (hnull : a.isNull = false) (hx : x.baseType = t) :
    applyOperator store op [.single x, a] = settled (combine store op [.single x, a]) := by
  have hsignature : op ≠ .random ∧ op.signature = Operator.member.signature := by
    simp only [List.mem_cons, List.not_mem_nil, or_false] at hop
    obtain rfl | rfl := hop <;> exact ⟨nofun, rfl⟩
  have hexact := exact_accepts hfloat hduration
  refine applyOperator_eq_settled hsignature.1 (fun _ ↦ ?_) ?_
  · exact List.forall_mem_cons.2 ⟨rfl, List.forall_mem_singleton.2 hnull⟩
  · rw [hsignature.2]
    refine List.forall_mem_cons.2 ⟨?_, List.forall_mem_singleton.2 ?_⟩
    · rintro _ ⟨⟩
      refine ⟨by decide, ?_⟩
      rintro _ ⟨⟩
      exact hx ▸ hexact
    · exact ha.admits (List.mem_cons_of_mem _ ha.mem_containers) hexact

end Application

/-- On containers of one cardinality and of one base type, which is not `.float` or `.duration`, the
operators agree. -/
theorem containerLaws (store : Store) {t : BaseType} (k : Cardinality) (hfloat : t ≠ .float)
    (hduration : t ≠ .duration) : ContainerLaws store t k where
  decided ha hb op hop := by
    simp only [List.mem_cons, List.not_mem_nil, or_false] at hop
    obtain rfl | rfl := hop
    · exact ⟨_, combine_same ha hb⟩
    · exact ⟨_, combine_contains ha hb⟩
  same_iff ha hb := by
    rw [holds_same_iff ha hb, holds_contains_iff ha hb, holds_contains_iff hb ha]
  contains_self ha := by
    rw [holds_contains_iff ha ha]
    exact includes_self k (ha.beq_self_of_mem hfloat hduration)
  contains_trans ha hb hc := by
    rw [holds_contains_iff ha hb, holds_contains_iff hb hc, holds_contains_iff ha hc]
    exact includes_trans k (hb.beq_self_of_mem hfloat hduration)
      (hc.beq_self_of_mem hfloat hduration)
  contains_ordered hk ha hb := by
    rw [holds_contains_iff ha hb, includes, if_pos hk, includesRun_iff]
    simp only [beq_iff_forall₂]
  contains_multiple hk ha hb := by
    rw [holds_contains_iff ha hb, includes, if_neg (hk ▸ nofun),
      includesMultiset_iff_count_le (hb.beq_self_of_mem hfloat hduration)]
  member_eq {a x} ha hx := by
    obtain ⟨c, hc, hrebuilt⟩ := exists_container ha (List.forall_mem_singleton.2 hx)
    have hne : c.members ≠ [] := hrebuilt.members ▸ List.cons_ne_nil x []
    refine ⟨c, hc, hrebuilt, ?_⟩
    rw [combine_member ha hx, combine_contains ha (hrebuilt.isContainer hne), hrebuilt.members,
      includes_singleton]
  delete {a x} ha hx := by
    obtain ⟨v, hv, hrebuilt⟩ := exists_combine_delete store ha hx
    refine ⟨v, hv, hrebuilt, combine_containerSize (t := t) (k := k) ?_, ?_⟩
    · by_cases hempty : v.members = []
      · exact .inl (hrebuilt.null hempty)
      · exact .inr (hrebuilt.isContainer hempty)
    · rw [combine_containerSize (.inr ha), hrebuilt.members, length_filter_add_count]
  applied ha hb hnull hnull' hx :=
    ⟨fun _ hop ↦ applyOperator_comparison hfloat hduration hop ha hb hnull hnull',
      fun _ hop ↦ applyOperator_search hfloat hduration hop ha hnull hx⟩
  applied_size ha := by
    refine applyOperator_eq_settled nofun nofun (List.forall_mem_singleton.2 ?_)
    obtain rfl | ha := ha
    · rintro _ ⟨⟩
    · exact ha.admits ha.mem_containers rfl

/-- Two pairs, one of them twice. -/
def drawnPairs : Container where
  baseType := .pair
  members := [.pair "A" "B", .pair "C" "D", .pair "A" "B"]
  uniform := by decide

/-- The pairs of `drawnPairs` in another order and the other way round. -/
def turnedPairs : Container where
  baseType := .pair
  members := [.pair "D" "C", .pair "B" "A", .pair "B" "A"]
  uniform := by decide

theorem containerLaws_pairs :
    Holds ⟨[]⟩ .contains [.multiple drawnPairs, .multiple turnedPairs] ∧
      Holds ⟨[]⟩ .contains [.multiple turnedPairs, .multiple drawnPairs] ∧
      ∃ v, combine ⟨[]⟩ .delete [.single (.pair "B" "A"), .multiple drawnPairs] = .ok v ∧
        v.members.length = 1 := by
  have laws := containerLaws ⟨[]⟩ (t := .pair) .multiple (by decide) (by decide)
  have hdrawn : (Value.multiple drawnPairs).IsContainer .pair .multiple := .multiple rfl
  have hturned : (Value.multiple turnedPairs).IsContainer .pair .multiple := .multiple rfl
  have hparts := (laws.same_iff hdrawn hturned).1 rfl
  obtain ⟨v, hv, hrebuilt, -⟩ := laws.delete hdrawn (x := .pair "B" "A") rfl
  exact ⟨hparts.1, hparts.2, v, hv, hrebuilt.members ▸ rfl⟩

end Evaluation

end AssessmentItem
