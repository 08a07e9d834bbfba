import AssessmentItem.Proofs.Evaluation.Basic
import AssessmentItem.Proofs.Evaluation.Containers

/-!
# Containers that are built

`multiple` and `ordered` join the members of their operands, which have to be of one base type and
no more than the limit.  The operands may as well be joined in parts: a part that is joined on its
own has the members of its operands, their base type, and no members only if all of them are NULL.
`repeat` is `ordered` on its operands several times over.

## Main definitions

* `Evaluation.Builds` : the value that an operator gives for its operands.
* `Evaluation.Joins` : the operators that join members, with the cardinality they give.
* `Evaluation.ContainerBuildingLaws` : how the operators that build containers agree.

## Main results

* `Evaluation.buildContainer_eq_ok_iff` : what containers are built of.
* `Evaluation.containerBuildingLaws` : the operators that build containers agree.
-/

namespace AssessmentItem

/-! ### Base types of operands -/

/-- The value `v` has the base type `t`, or none at all. -/
def Value.Suits (v : Value) (t : BaseType) : Prop := ∀ u ∈ v.baseType?, u = t

namespace Value

variable {v : Value} {t : BaseType}

theorem suits_null (t : BaseType) : Value.null.Suits t := nofun

theorem eq_null_of_baseType? (hrecord : v.cardinality? ≠ some .record)
    (h : v.baseType? = none) : v = .null := by
  cases v with
  | null => rfl
  | record => exact absurd rfl hrecord
  | _ => nomatch h

theorem Suits.baseType_of_mem (h : v.Suits t) (hrecord : v.cardinality? ≠ some .record)
    {s : Scalar} (hs : s ∈ v.members) : s.baseType = t :=
  h _ (baseType?_of_mem_members hrecord hs)

end Value

namespace Evaluation

/-! ### Building -/

section Building

variable {vs : List Value} {k : Cardinality} {t : BaseType} {v w : Value} {members : List Scalar}

/-- Operands are gathered by `gatherFrom` exactly if no two of them have different base types. -/
theorem gatherFrom_eq_ok_iff (hrecord : ∀ v ∈ vs, v.cardinality? ≠ some .record) {i : Nat}
    {found o : Option BaseType} :
    gatherFrom i found vs = .ok (o, members) ↔
      o = found.or (vs.findSome? Value.baseType?) ∧ members = vs.flatMap Value.members ∧
        ∀ t ∈ o, ∀ v ∈ vs, v.Suits t := by
  induction vs generalizing i found o members with
  | nil =>
    rw [gatherFrom, List.findSome?_nil, Option.or_none, List.flatMap_nil, Except.ok.injEq,
      Prod.mk.injEq]
    constructor
    · rintro ⟨rfl, rfl⟩
      exact ⟨rfl, rfl, fun _ _ _ hv ↦ absurd hv List.not_mem_nil⟩
    · rintro ⟨rfl, rfl, -⟩
      exact ⟨rfl, rfl⟩
  | cons v vs ih =>
    have ih {i found o members} := @ih members (fun v hv ↦ hrecord v (List.mem_cons_of_mem _ hv))
      i found o
    rw [gatherFrom]
    cases hbase : v.baseType? with
    | none =>
      obtain rfl := Value.eq_null_of_baseType? (hrecord v List.mem_cons_self) hbase
      dsimp only
      rw [ih, List.findSome?_cons_of_isNone (by rfl), List.flatMap_cons]
      simp only [List.forall_mem_cons, Value.suits_null, true_and]
      rfl
    | some u =>
      have hsuits (t) : v.Suits t ↔ u = t := by simp [Value.Suits, hbase]
      simp only [List.findSome?_cons, hbase, List.flatMap_cons, List.forall_mem_cons, hsuits]
      by_cases hfound : ∀ s ∈ found, s = u
      · have hnone : found.filter (· ≠ u) = none := by simpa using hfound
        have hor : found.or (some u) = some u := by cases found <;> simp_all
        simp only [hnone, hor, bind_eq_ok_iff, Prod.exists, ih, Option.some_or]
        constructor
        · rintro ⟨_, _, ⟨rfl, rfl, h⟩, heq⟩
          cases heq
          exact ⟨rfl, rfl, by simpa using h⟩
        · rintro ⟨rfl, rfl, h⟩
          exact ⟨_, _, ⟨rfl, rfl, fun t ht ↦ (h t ht).2⟩, rfl⟩
      · obtain ⟨s, rfl⟩ : ∃ s, found = some s := by
          rw [← Option.ne_none_iff_exists']
          rintro rfl
          exact hfound (by simp)
        have hne : s ≠ u := by simpa using hfound
        simp only [Option.filter_some_pos (p := fun t ↦ decide (t ≠ u)) (decide_eq_true hne)]
        constructor
        · intro h
          cases h
        · rintro ⟨rfl, -, h⟩
          exact absurd (h s rfl).1.symm hne

theorem gather_eq_ok_iff (hrecord : ∀ v ∈ vs, v.cardinality? ≠ some .record)
    {o : Option BaseType} :
    gather vs = .ok (o, members) ↔
      o = vs.findSome? Value.baseType? ∧ members = vs.flatMap Value.members ∧
        ∀ t ∈ o, ∀ v ∈ vs, v.Suits t := by
  rw [gather, gatherFrom_eq_ok_iff hrecord, Option.none_or]

/-- The `members` make up at most one value. -/
theorem IsRebuilt.unique (hv : IsRebuilt t k members v) (hw : IsRebuilt t k members w) :
    v = w := by
  by_cases hempty : members = []
  · rw [hv.null (hv.members.trans hempty), hw.null (hw.members.trans hempty)]
  · have hv' := hv.isContainer (hv.members ▸ hempty)
    have hw' := hw.isContainer (hw.members ▸ hempty)
    have hmembers := hv.members.trans hw.members.symm
    cases hv' with
    | @multiple c hc =>
      cases hw' with
      | @multiple d hd =>
        obtain ⟨_, _, _⟩ := c
        obtain ⟨_, _, _⟩ := d
        subst hc hd
        cases hmembers
        rfl
    | @ordered c hc =>
      cases hw' with
      | @ordered d hd =>
        obtain ⟨_, _, _⟩ := c
        obtain ⟨_, _, _⟩ := d
        subst hc hd
        cases hmembers
        rfl

theorem isRebuilt_null (t : BaseType) (k : Cardinality) : IsRebuilt t k [] .null :=
  ⟨rfl, fun _ ↦ rfl, fun h ↦ absurd rfl h⟩

theorem exists_container_of_mem (hk : k ∈ Signature.containers)
    (h : ∀ s ∈ members, s.baseType = t) :
    ∃ v, Value.container k t members = .ok v ∧ IsRebuilt t k members v := by
  let c : Container := ⟨t, [], nofun⟩
  rw [Signature.containers, List.mem_pair] at hk
  obtain rfl | rfl := hk
  · exact exists_container (.multiple (rfl : c.baseType = t)) h
  · exact exists_container (.ordered (rfl : c.baseType = t)) h

theorem container_eq_ok_iff (hk : k ∈ Signature.containers)
    (h : ∀ s ∈ members, s.baseType = t) :
    Value.container k t members = .ok v ↔ IsRebuilt t k members v := by
  obtain ⟨w, hw, hrebuilt⟩ := exists_container_of_mem hk h
  rw [hw, Except.ok.injEq]
  exact ⟨fun heq ↦ heq ▸ hrebuilt, fun hv ↦ hrebuilt.unique hv⟩

/-- The members of operands of one base type. -/
theorem baseType_of_mem_flatMap (hrecord : ∀ a ∈ vs, a.cardinality? ≠ some .record)
    (h : ∀ a ∈ vs, a.Suits t) : ∀ s ∈ vs.flatMap Value.members, s.baseType = t := by
  intro s hs
  obtain ⟨a, ha, hs⟩ := List.mem_flatMap.1 hs
  exact (h a ha).baseType_of_mem (hrecord a ha) hs

/-- Members of the base type `t` are copied into a container if there are not too many of them. -/
theorem copies_eq_ok_iff (hk : k ∈ Signature.containers) (h : ∀ s ∈ members, s.baseType = t)
    (times : Nat) :
    (if members.isEmpty then return .null
      else if members.length * times ≤ maxMembers then
        (Value.container k t (List.replicate times members).flatten).mapError Fault.container
      else throw (.tooManyMembers times members.length) : Except Fault Value) = .ok v ↔
    members.length * times ≤ maxMembers ∧
      IsRebuilt t k (List.replicate times members).flatten v := by
  by_cases hempty : members = []
  · rw [if_pos (List.isEmpty_iff.2 hempty), hempty, List.flatten_replicate_nil]
    constructor
    · rintro ⟨⟩
      exact ⟨by simp, isRebuilt_null t k⟩
    · rintro ⟨-, hv⟩
      rw [hv.unique (isRebuilt_null t k)]
      rfl
  · rw [if_neg (fun hempty' ↦ hempty (List.isEmpty_iff.1 hempty'))]
    have hcopies : ∀ s ∈ (List.replicate times members).flatten, s.baseType = t := by
      intro s hs
      obtain ⟨l, hl, hs⟩ := List.mem_flatten.1 hs
      exact h s (List.eq_of_mem_replicate hl ▸ hs)
    split
    · rename_i hlength
      rw [mapError_eq_ok_iff, container_eq_ok_iff hk hcopies]
      exact (and_iff_right hlength).symm
    · rename_i hlength
      exact iff_of_false (fun hv ↦ by cases hv) fun hv ↦ hlength hv.1

/-- A container is built by `buildContainer` of the members of all operands if these are of one base
type and if there are not too many of them. -/
theorem buildContainer_eq_ok_iff (hk : k ∈ Signature.containers)
    (hrecord : ∀ v ∈ vs, v.cardinality? ≠ some .record) (times : Nat) :
    buildContainer k times vs = .ok v ↔
      ∃ t, (∀ a ∈ vs, a.Suits t) ∧ (vs.flatMap Value.members).length * times ≤ maxMembers ∧
        IsRebuilt t k (List.replicate times (vs.flatMap Value.members)).flatten v := by
  have hbase (t) := baseType_of_mem_flatMap (t := t) hrecord
  rw [buildContainer, bind_eq_ok_iff]
  simp only [Prod.exists, gather_eq_ok_iff hrecord]
  generalize hmembers : vs.flatMap Value.members = members at hbase ⊢
  cases hfound : vs.findSome? Value.baseType? with
  | none =>
    have hnone : ∀ a ∈ vs, a = .null := fun a ha ↦
      Value.eq_null_of_baseType? (hrecord a ha) (List.findSome?_eq_none_iff.1 hfound a ha)
    obtain rfl : members = [] :=
      hmembers.symm.trans (List.flatMap_eq_nil_iff.2 fun a ha ↦ hnone a ha ▸ rfl)
    rw [List.flatten_replicate_nil]
    constructor
    · rintro ⟨_, _, ⟨rfl, -, -⟩, h⟩
      cases h
      exact ⟨.identifier, fun a ha ↦ hnone a ha ▸ Value.suits_null _, by simp, isRebuilt_null _ _⟩
    · rintro ⟨t, -, -, h⟩
      obtain rfl := h.unique (isRebuilt_null t k)
      exact ⟨_, _, ⟨rfl, rfl, by simp⟩, rfl⟩
  | some t =>
    constructor
    · rintro ⟨_, _, ⟨rfl, rfl, ht⟩, h⟩
      exact ⟨t, ht t rfl, (copies_eq_ok_iff hk (hbase t (ht t rfl)) times).1 h⟩
    · rintro ⟨u, hu, h⟩
      obtain ⟨a, ha, hat⟩ := List.exists_of_findSome?_eq_some hfound
      obtain rfl := hu a ha t hat
      exact ⟨_, _, ⟨rfl, rfl, fun _ ht ↦ Option.some.inj ht ▸ hu⟩,
        (copies_eq_ok_iff hk (hbase t hu) times).2 h⟩

end Building

/-! ### Operators -/

/-- The operator gives `v` for its operands without a draw. -/
def Builds (store : Store) (op : Operator) (vs : List Value) (v : Value) : Prop :=
  applyOperator store op vs = return v

/-- The operators that join the `members` of their operands, and the cardinality of what they
give. -/
inductive Joins : Operator → Cardinality → Prop
  | multiple : Joins .multiple .multiple
  | ordered : Joins .ordered .ordered

section Operators

variable {store : Store} {op : Operator} {k : Cardinality} {vs xs ys zs : List Value} {v w : Value}

theorem settled_eq_return_iff {r : Except Fault Value} :
    settled r = (return v : Drawing Fault Value) ↔ r = .ok v := by
  constructor
  · intro h
    exact congrArg Prod.fst (congrFun h (.ofSeed 0))
  · rintro rfl
    rfl

/-- Where NULL does not propagate, an operator that draws nothing is `combine` on operands that it
admits. -/
theorem builds_iff_combine (hop : op ≠ .random) (hnull : op.signature.nullPropagates = false) :
    Builds store op vs v ↔
      (∀ a ∈ vs, op.signature.Admits a) ∧ combine store op vs = .ok v := by
  rw [← checkOperands_eq_ok_iff (i := 0), Builds, applyOperator, hnull, Bool.false_and,
    if_neg Bool.false_ne_true, operatorValue_eq_settled store hop]
  cases checkOperands op.signature 0 vs with
  | error fault =>
    refine iff_of_false (fun h ↦ ?_) fun h ↦ by cases h.1
    have herror : (Except.error fault : Except Fault Value) = .ok v := settled_eq_return_iff.1 h
    cases herror
  | ok => exact settled_eq_return_iff.trans (and_iff_right rfl).symm

namespace Joins

theorem mem_containers (h : Joins op k) : k ∈ Signature.containers := by
  cases h <;> decide

theorem cardinalities (h : Joins op k) : op.signature.cardinalities = [.single, k] := by
  cases h <;> rfl

theorem notRecord (h : Joins op k) (hv : op.signature.Admits v) :
    v.cardinality? ≠ some .record := by
  intro hrecord
  have hmem := (hv _ hrecord).1
  rw [h.cardinalities] at hmem
  cases h <;> simp at hmem

theorem admits_of_isContainer (h : Joins op k) {t : BaseType} (hv : v.IsContainer t k) :
    op.signature.Admits v := by
  refine hv.admits (h.cardinalities ▸ List.mem_cons_of_mem _ List.mem_cons_self) ?_
  cases h <;> rfl

/-- The value of an operator that `Joins` members, and when it has one. -/
theorem builds_iff (h : Joins op k) :
    Builds store op vs v ↔
      (∀ a ∈ vs, op.signature.Admits a) ∧ ∃ t, (∀ a ∈ vs, a.Suits t) ∧
        (vs.flatMap Value.members).length ≤ maxMembers ∧
        IsRebuilt t k (vs.flatMap Value.members) v := by
  have hcombine : combine store op vs = buildContainer k 1 vs := by cases h <;> rfl
  rw [builds_iff_combine (by cases h <;> nofun) (by cases h <;> rfl), hcombine]
  refine and_congr_right fun hadmits ↦ ?_
  rw [buildContainer_eq_ok_iff h.mem_containers fun a ha ↦ h.notRecord (hadmits a ha)]
  simp only [mul_one, List.replicate_one, List.flatten_singleton]

/-- The operands `ys` may be joined before the others. -/
theorem nested (h : Joins op k) (hwellFormed : ∀ a ∈ ys, a.WellFormed) :
    (∃ w, Builds store op ys w ∧ Builds store op (xs ++ w :: zs) v) ↔
      Builds store op (xs ++ ys ++ zs) v := by
  simp only [h.builds_iff, List.flatMap_append, List.flatMap_cons, List.forall_mem_append,
    List.forall_mem_cons, List.length_append]
  constructor
  · rintro ⟨w, ⟨hys, t, htys, -, hw⟩, ⟨hxs, -, hzs⟩, u, ⟨hxu, hwu, hzu⟩, hlength, hv⟩
    rw [hw.members] at hlength hv
    rw [List.append_assoc]
    -- The base type of the part is lost only where it has no members.
    refine ⟨⟨⟨hxs, hys⟩, hzs⟩, u, ⟨⟨hxu, fun a ha ↦ ?_⟩, hzu⟩, by omega, hv⟩
    by_cases hnone : ys.flatMap Value.members = []
    · obtain rfl := (hwellFormed a ha).eq_null_of_members (List.flatMap_eq_nil_iff.1 hnone a ha)
      exact Value.suits_null u
    · obtain rfl := hwu t (hw.isContainer (hw.members ▸ hnone)).baseType?
      exact htys a ha
  · rintro ⟨⟨⟨hxs, hys⟩, hzs⟩, t, ⟨⟨hxt, hyt⟩, hzt⟩, hlength, hv⟩
    obtain ⟨w, -, hw⟩ := exists_container_of_mem h.mem_containers
      (baseType_of_mem_flatMap (fun a ha ↦ h.notRecord (hys a ha)) hyt)
    have hpart : op.signature.Admits w ∧ w.Suits t := by
      by_cases hnone : ys.flatMap Value.members = []
      · rw [hw.null (hw.members.trans hnone)]
        exact ⟨nofun, Value.suits_null t⟩
      · have hcontainer := hw.isContainer (hw.members ▸ hnone)
        refine ⟨h.admits_of_isContainer hcontainer, fun u hu ↦ ?_⟩
        exact Option.some.inj (hu.symm.trans hcontainer.baseType?)
    refine ⟨w, ⟨hys, t, hyt, by omega, hw⟩, ⟨hxs, hpart.1, hzs⟩, t, ⟨hxt, hpart.2, hzt⟩, ?_⟩
    rw [hw.members, ← List.append_assoc]
    exact ⟨by omega, hv⟩

/-- Operands that are `.null` add nothing. -/
theorem null (h : Joins op k) :
    Builds store op (xs ++ .null :: ys) v ↔ Builds store op (xs ++ ys) v := by
  simp only [h.builds_iff, List.flatMap_append, List.flatMap_cons, List.forall_mem_append,
    List.forall_mem_cons, Value.suits_null, true_and]
  refine and_congr_left fun _ ↦ and_congr_right fun _ ↦ and_iff_right ?_
  exact nofun

end Joins

section Repetition

variable {n : Literal Int64} {i : Int64}

theorem builds_repeated (hn : literalInteger store n = .ok i) :
    Builds store (.repeated n) vs v ↔
      (∀ a ∈ vs, Operator.ordered.signature.Admits a) ∧ repeatMembers i vs = .ok v := by
  have hcombine : combine store (.repeated n) vs = repeatMembers i vs := by
    change (literalInteger store n >>= fun k ↦ repeatMembers k vs) = _
    rw [hn]
    rfl
  rw [← hcombine]
  exact builds_iff_combine nofun rfl

/-- A `.repeated` operator joins its operands several times over. -/
theorem builds_repeated_iff (hn : literalInteger store n = .ok i) (hi : 1 ≤ i) :
    Builds store (.repeated n) vs v ↔
      Builds store .ordered (List.replicate i.toInt.toNat vs).flatten v := by
  have htimes : i.toInt.toNat ≠ 0 := by
    have hpos : (1 : Int64).toInt ≤ i.toInt := Int64.le_iff_toInt_le.1 hi
    have hone : (1 : Int64).toInt = 1 := rfl
    omega
  rw [builds_repeated hn, repeatMembers, if_neg (Int64.not_lt.2 hi), Joins.ordered.builds_iff]
  generalize i.toInt.toNat = times at htimes ⊢
  have hcopies {p : Value → Prop} : (∀ a ∈ (List.replicate times vs).flatten, p a) ↔
      ∀ a ∈ vs, p a := by
    simp [htimes]
  have hmembers : (List.replicate times vs).flatten.flatMap Value.members =
      (List.replicate times (vs.flatMap Value.members)).flatten := by
    rw [List.flatMap, List.map_flatten, List.map_replicate, List.flatten_flatten,
      List.map_replicate]
    rfl
  rw [hcopies, hmembers]
  simp only [hcopies]
  refine and_congr_right fun hadmits ↦ ?_
  rw [buildContainer_eq_ok_iff Joins.ordered.mem_containers fun a ha ↦
    Joins.ordered.notRecord (hadmits a ha)]
  simp [mul_comm]

theorem builds_repeated_null (hn : literalInteger store n = .ok i) (hi : i < 1)
    (hadmits : ∀ a ∈ vs, (Operator.repeated n).signature.Admits a) :
    Builds store (.repeated n) vs .null :=
  (builds_repeated hn).2 ⟨hadmits, if_pos hi⟩

end Repetition

end Operators

/-! ### Expressions -/

section Expressions

variable {scope : Scope} {op : Operator} {k : Cardinality} {es fs hs : List ExpressionTree}
  {g g' : Generator} {vs : List Value} {v : Value}

theorem run_within_eq_ok_iff {α : Type} {id : NodeId} {kind : ExpressionKind} {d : Drawing Fault α}
    {a : α} : (scope.within id kind d).run g = (.ok a, g') ↔ d.run g = (.ok a, g') := by
  change ((d.run g).1.mapError _, (d.run g).2) = _ ↔ _
  rw [Prod.ext_iff, Prod.ext_iff]
  exact and_congr_left' mapError_eq_ok_iff

theorem run_applyOperator_iff {store : Store} (hop : op ≠ .random) :
    (applyOperator store op vs).run g = (.ok v, g') ↔ Builds store op vs v ∧ g = g' := by
  have hsettled : ∃ r, applyOperator store op vs = settled r := by
    rw [applyOperator]
    split
    · exact ⟨.ok .null, rfl⟩
    · rw [operatorValue_eq_settled store hop]
      cases checkOperands op.signature 0 vs with
      | error fault => exact ⟨.error fault, rfl⟩
      | ok => exact ⟨_, rfl⟩
  obtain ⟨r, hr⟩ := hsettled
  rw [Builds, hr, settled_eq_return_iff]
  exact Prod.mk.injEq .. ▸ Iff.rfl

/-- The value of an expression whose operator `Joins` members. -/
theorem Joins.run_evaluate_iff (h : Joins op k) {id : NodeId} :
    (evaluate scope (.node id (.operator op) es)).run g = (.ok v, g') ↔
      ∃ vs, (evaluateAll scope es).run g = (.ok vs, g') ∧ Builds scope.store op vs v := by
  have hop : op ≠ .random := by cases h <;> nofun
  have harity : checkArity op es.length = .ok () := by
    rw [checkArity, if_pos]
    cases h <;> simp [Operator.signature, Signature.tolerant, Arity.accepts]
  rw [evaluate, harity]
  change (evaluateAll scope es >>= fun vs ↦ scope.within id (.operator op)
    (applyOperator scope.store op vs)).run g = _ ↔ _
  rw [run_bind_eq_ok_iff]
  simp only [run_within_eq_ok_iff, run_applyOperator_iff hop]
  constructor
  · rintro ⟨vs, _, hes, hv, rfl⟩
    exact ⟨vs, hes, hv⟩
  · rintro ⟨vs, hes, hv⟩
    exact ⟨vs, g', hes, hv, rfl⟩

/-- The expressions `fs` may be joined before the others, whatever they draw. -/
theorem Joins.run_nested_iff (h : Joins op k) (typed : scope.store.WellTyped) {id id' : NodeId} :
    (evaluate scope (.node id (.operator op) (es ++ .node id' (.operator op) fs :: hs))).run g =
        (.ok v, g') ↔
      (evaluate scope (.node id (.operator op) (es ++ fs ++ hs))).run g = (.ok v, g') := by
  simp only [h.run_evaluate_iff, run_evaluateAll_append_iff, run_evaluateAll_cons_iff]
  constructor
  · rintro ⟨_, ⟨xs, g₁, hes, _, ⟨w, g₂, ⟨ys, hfs, hw⟩, zs, hhs, rfl⟩, rfl⟩, hv⟩
    have hwellFormed := ((ends_evaluateAll typed fs g₁).of_run_eq_ok hfs).wellFormed
    exact ⟨_, ⟨_, g₂, ⟨xs, g₁, hes, ys, hfs, rfl⟩, zs, hhs, rfl⟩,
      (h.nested hwellFormed).1 ⟨w, hw, hv⟩⟩
  · rintro ⟨_, ⟨_, g₂, ⟨xs, g₁, hes, ys, hfs, rfl⟩, zs, hhs, rfl⟩, hv⟩
    have hwellFormed := ((ends_evaluateAll typed fs g₁).of_run_eq_ok hfs).wellFormed
    obtain ⟨w, hw, hv⟩ := (h.nested hwellFormed).2 hv
    exact ⟨_, ⟨xs, g₁, hes, _, ⟨w, g₂, ⟨ys, hfs, hw⟩, zs, hhs, rfl⟩, rfl⟩, hv⟩

end Expressions

/-! ### Agreement -/

/-- The operators `.multiple`, `.ordered` and `.repeated` agree. -/
structure ContainerBuildingLaws (store : Store) : Prop where
  /-- Operands are joined that are admitted, of one base type and within `maxMembers`. -/
  builds_iff {op : Operator} {k : Cardinality} {vs : List Value} {v : Value} : Joins op k →
    (Builds store op vs v ↔
      (∀ a ∈ vs, op.signature.Admits a) ∧ ∃ t, (∀ a ∈ vs, a.Suits t) ∧
        (vs.flatMap Value.members).length ≤ maxMembers ∧
        IsRebuilt t k (vs.flatMap Value.members) v)
  /-- The operands `ys` may be joined before the others. -/
  nested {op : Operator} {k : Cardinality} {xs ys zs : List Value} {v : Value} : Joins op k →
    (∀ a ∈ ys, a.WellFormed) →
      ((∃ w, Builds store op ys w ∧ Builds store op (xs ++ w :: zs) v) ↔
        Builds store op (xs ++ ys ++ zs) v)
  /-- So may expressions, which then draw the same. -/
  run_nested {item : Item} {op : Operator} {k : Cardinality} {es fs hs : List ExpressionTree}
    {id id' : NodeId} {g g' : Generator} {v : Value} : Joins op k → store.WellTyped →
      ((evaluate ⟨item, store⟩
          (.node id (.operator op) (es ++ .node id' (.operator op) fs :: hs))).run g =
            (.ok v, g') ↔
        (evaluate ⟨item, store⟩ (.node id (.operator op) (es ++ fs ++ hs))).run g = (.ok v, g'))
  /-- NULL adds nothing, for every operator that `Joins`. -/
  null {op : Operator} {k : Cardinality} {xs ys : List Value} {v : Value} : Joins op k →
    (Builds store op (xs ++ .null :: ys) v ↔ Builds store op (xs ++ ys) v)
  /-- To repeat the members is to join the operands several times over, as `.ordered` does. -/
  repeated {n : Literal Int64} {i : Int64} {vs : List Value} {v : Value} :
    literalInteger store n = .ok i → 1 ≤ i →
      (Builds store (.repeated n) vs v ↔
        Builds store .ordered (List.replicate i.toInt.toNat vs).flatten v)
  /-- Nothing is repeated less than once: the result is `.null`. -/
  repeated_null {n : Literal Int64} {i : Int64} {vs : List Value} :
    literalInteger store n = .ok i → i < 1 →
      (∀ a ∈ vs, (Operator.repeated n).signature.Admits a) → Builds store (.repeated n) vs .null

/-- To join members is associative with `.null` for its unit, and to repeat them is to join them
several times over. -/
theorem containerBuildingLaws (store : Store) : ContainerBuildingLaws store where
  builds_iff := Joins.builds_iff
  nested := Joins.nested
  run_nested hjoins typed := hjoins.run_nested_iff typed
  null := Joins.null
  repeated := builds_repeated_iff
  repeated_null := builds_repeated_null

/-- The identifier `A`, twice. -/
def doubledLetter : Container where
  baseType := .identifier
  members := [.identifier "A", .identifier "A"]
  uniform := by decide

theorem containerBuildingLaws_letter :
    Builds ⟨[]⟩ (.repeated (.given 2)) [.single (.identifier "A"), .null]
        (.ordered doubledLetter) ∧
      Builds ⟨[]⟩ (.repeated (.given 0)) [.null] .null ∧
      ∃ w, Builds ⟨[]⟩ .ordered [.single (.identifier "A")] w ∧
        Builds ⟨[]⟩ .ordered [.single (.identifier "A"), w, .null] (.ordered doubledLetter) := by
  have laws := containerBuildingLaws ⟨[]⟩
  have hplain : Builds ⟨[]⟩ .ordered [.single (.identifier "A"), .single (.identifier "A"), .null]
      (.ordered doubledLetter) := rfl
  refine ⟨(laws.repeated (i := 2) rfl (by decide)).2 ?_, laws.repeated_null (i := 0) rfl (by decide)
    (List.forall_mem_singleton.2 nofun), ?_⟩
  · exact (@laws.null _ _ [.single (.identifier "A")] _ _ .ordered).2 hplain
  · exact (@laws.nested _ _ [.single (.identifier "A")] _ [.null] _ .ordered
      (List.forall_mem_singleton.2 (Value.wellFormed_single _))).2 hplain

end Evaluation

end AssessmentItem
