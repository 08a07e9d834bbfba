import Mathlib.Data.Int.Notation
import Mathlib.Data.List.Count
import Mathlib.Data.List.Forall2
import AssessmentItem.Proofs.Evaluation.Signatures

/-!
# Truth values with unknown ones

NULL stands for a truth value that is not known.  An operation on truth values is settled if every
way to complete the operands leads to the same result, and the logical operators give NULL exactly
if theirs is not.  How many operands are true after a completion lies between the number of those
known to be true and that number with the unknown ones, and every number between occurs.  So all
three operators are found by counting, and conjunction and disjunction are the ranges of all and of
at least one.

## Main definitions

* `Evaluation.Completes` : known truth values in place of unknown ones.
* `Evaluation.Settles` : the result on which all completions agree.
* `Evaluation.TruthLaws` : what the logical operators give.

## Main results

* `Evaluation.settles_countedTruth` : counting finds the result on which all completions agree.
* `Evaluation.truthLaws` : the logical operators are exact.
-/

namespace AssessmentItem.Evaluation

variable {store : Store} {op : Operator} {bs : List Bool} {truths : List (Option Bool)}

/-- A truth value as a value, `.null` if it is not known. -/
def truthValue : Option Bool → Value
  | none => .null
  | some b => .boolean b

/-- Known truth values `bs` that differ from the given ones only where these are not known. -/
def Completes (bs : List Bool) (truths : List (Option Bool)) : Prop :=
  List.Forall₂ (fun b t ↦ t = none ∨ t = some b) bs truths

/-- The operation `classical` on truth values comes to a result after every completion, if that is
known, and to no one result if it is not. -/
def Settles (classical : List Bool → Bool) (truths : List (Option Bool)) (t : Option Bool) : Prop :=
  ∀ b, t = some b ↔ ∀ bs, Completes bs truths → classical bs = b

/-! ### Completions -/

section Completions

theorem Completes.length_eq (h : Completes bs truths) : bs.length = truths.length :=
  List.Forall₂.length_eq h

/-- After a completion no operand that is known to be true is false, and none more is true than
those that are `none`. -/
theorem Completes.count_bounds (h : Completes bs truths) :
    truths.count (some true) ≤ bs.count true ∧
      bs.count true ≤ truths.count (some true) + truths.count none := by
  induction h with
  | nil => exact ⟨Nat.le_refl 0, Nat.le_refl 0⟩
  | @cons b t bs truths hbt _ ih =>
    obtain rfl | rfl := hbt <;> cases b <;> simp <;> omega

/-- Every number `k` between the bounds is that of the true operands after a completion. -/
theorem exists_completes (truths : List (Option Bool)) {k : ℕ}
    (hlow : truths.count (some true) ≤ k)
    (hhigh : k ≤ truths.count (some true) + truths.count none) :
    ∃ bs, Completes bs truths ∧ bs.count true = k := by
  induction truths generalizing k with
  | nil => exact ⟨[], .nil, (Nat.le_zero.1 hhigh).symm⟩
  | cons t truths ih =>
    obtain _ | _ | _ := t
    · -- the operand that is not known is false unless the others are too few
      by_cases hk : k ≤ truths.count (some true) + truths.count none
      · obtain ⟨bs, hbs, hcount⟩ := ih (by simpa using hlow) hk
        exact ⟨false :: bs, .cons (.inl rfl) hbs, by simpa using hcount⟩
      · obtain ⟨bs, hbs, hcount⟩ := ih (k := k - 1) (by omega) (by simp at hhigh; omega)
        exact ⟨true :: bs, .cons (.inl rfl) hbs, by simp; omega⟩
    · obtain ⟨bs, hbs, hcount⟩ := ih (by simpa using hlow) (by simpa using hhigh)
      exact ⟨false :: bs, .cons (.inr rfl) hbs, by simpa using hcount⟩
    · obtain ⟨bs, hbs, hcount⟩ := ih (k := k - 1) (by simp at hlow; omega)
        (by simp at hhigh; omega)
      exact ⟨true :: bs, .cons (.inr rfl) hbs, by simp at hlow ⊢; omega⟩

theorem length_eq_counts (truths : List (Option Bool)) :
    truths.length =
      truths.count (some true) + truths.count none + truths.count (some false) := by
  induction truths with
  | nil => rfl
  | cons t truths ih => obtain _ | _ | _ := t <;> simp <;> omega

end Completions

/-! ### Counting -/

section Counting

variable {least most : ℤ}

/-- As many truth values are true as lie in the range from `least` to `most`. -/
def countsIn (least most : ℤ) (bs : List Bool) : Bool :=
  least ≤ bs.count true ∧ bs.count true ≤ most

/-- Whether as many truth values are true as lie in the range from `least` to `most`, if it is
known. -/
def countedTruth (least most : ℤ) (truths : List (Option Bool)) : Option Bool :=
  if most < truths.count (some true) ∨
      (truths.count (some true) + truths.count none : ℤ) < least then some false
  else if least ≤ truths.count (some true) ∧
      (truths.count (some true) + truths.count none : ℤ) ≤ most then some true
  else none

/-- The result of `countedTruth` is that on which all completions agree. -/
theorem settles_countedTruth (h : least ≤ most) (truths : List (Option Bool)) :
    Settles (countsIn least most) truths (countedTruth least most truths) := by
  intro b
  constructor
  · intro ht bs hbs
    obtain ⟨hlow, hhigh⟩ := hbs.count_bounds
    unfold countedTruth at ht
    unfold countsIn
    split_ifs at ht with hout hin
    · cases ht
      rw [decide_eq_false_iff_not]
      omega
    · cases ht
      rw [decide_eq_true_iff]
      omega
  · intro hall
    have hk (k : ℕ) (hlow : truths.count (some true) ≤ k)
        (hhigh : k ≤ truths.count (some true) + truths.count none) :
        decide (least ≤ (k : ℤ) ∧ (k : ℤ) ≤ most) = b := by
      obtain ⟨bs, hbs, rfl⟩ := exists_completes truths hlow hhigh
      exact hall bs hbs
    cases b with
    | true =>
      have hlow := of_decide_eq_true (hk _ (Nat.le_refl _) (Nat.le_add_right _ _))
      have hhigh := of_decide_eq_true (hk _ (Nat.le_add_right _ _) (Nat.le_refl _))
      rw [countedTruth, if_neg (by omega), if_pos (by omega)]
    | false =>
      -- else the nearest number to the range would lie in it
      have hout : most < truths.count (some true) ∨
          (truths.count (some true) + truths.count none : ℤ) < least := by
        by_contra hin
        have hnearest := hk (max (truths.count (some true)) least.toNat) (by omega) (by omega)
        rw [decide_eq_false_iff_not] at hnearest
        omega
      rw [countedTruth, if_pos hout]

theorem Settles.congr {f g : List Bool → Bool} {t : Option Bool} (h : Settles f truths t)
    (hfg : ∀ bs, Completes bs truths → f bs = g bs) : Settles g truths t := by
  intro b
  rw [h b]
  exact forall₂_congr fun bs hbs ↦ by rw [hfg bs hbs]

theorem all_eq_countsIn (bs : List Bool) : bs.all id = countsIn bs.length bs.length bs := by
  have hle := bs.count_le_length (a := true)
  rw [Bool.eq_iff_iff, countsIn, decide_eq_true_iff, List.all_eq_true]
  have hcount : bs.count true = bs.length ↔ ∀ b ∈ bs, true = b := List.count_eq_length
  simp only [id_eq, eq_comm (b := true)] at hcount ⊢
  rw [← hcount]
  omega

theorem any_eq_countsIn (bs : List Bool) : bs.any id = countsIn 1 bs.length bs := by
  have hle := bs.count_le_length (a := true)
  have hcount : 0 < bs.count true ↔ true ∈ bs := List.count_pos_iff
  rw [Bool.eq_iff_iff, countsIn, decide_eq_true_iff, List.any_eq_true]
  simp only [id_eq, exists_eq_right, ← hcount]
  omega

end Counting

/-! ### The logical operators -/

/-- What `.and`, `.or`, `.anyN` and `.not` give for truth values. -/
structure TruthLaws (store : Store) (truths : List (Option Bool)) : Prop where
  and : ∃ t, Yields store .and (truths.map truthValue) (truthValue t) ∧
    Settles (fun bs ↦ bs.all id) truths t
  or : ∃ t, Yields store .or (truths.map truthValue) (truthValue t) ∧
    Settles (fun bs ↦ bs.any id) truths t
  anyN {l m : Literal Int64} {least most : Int64} : literalInteger store l = .ok least →
    literalInteger store m = .ok most → least ≤ most →
      ∃ t, Yields store (.anyN l m) (truths.map truthValue) (truthValue t) ∧
        Settles (countsIn least.toInt most.toInt) truths t
  /-- Conjunction is that all operands are true, as `.anyN` counts them. -/
  and_eq_anyN {l m : Literal Int64} {n : Int64} : literalInteger store l = .ok n →
    literalInteger store m = .ok n → n.toInt = truths.length →
      ∃ v, Yields store .and (truths.map truthValue) v ∧
        Yields store (.anyN l m) (truths.map truthValue) v
  /-- Disjunction is that at least one operand is true, as `.anyN` counts them. -/
  or_eq_anyN {l m : Literal Int64} {n : Int64} : literalInteger store l = .ok 1 →
    literalInteger store m = .ok n → n.toInt = truths.length →
      ∃ v, Yields store .or (truths.map truthValue) v ∧
        Yields store (.anyN l m) (truths.map truthValue) v
  perm {truths' : List (Option Bool)} : truths.Perm truths' → ∀ op,
    (op = .and ∨ op = .or ∨ ∃ l m least most, op = .anyN l m ∧
      literalInteger store l = .ok least ∧ literalInteger store m = .ok most) →
        ∃ v, Yields store op (truths.map truthValue) v ∧ Yields store op (truths'.map truthValue) v
  /-- A conjunction is denied by the disjunction of what is denied of its operands. -/
  not_and {scope : Scope} {children : List ExpressionTree} {g g' : Generator} :
    scope.store = store → (evaluateAll scope children).run g = (.ok (truths.map truthValue), g') →
      ∀ a b c d : NodeId, ∃ v,
        (evaluate scope (.node a (.operator .not) [.node b (.operator .and) children])).run g =
          (.ok v, g') ∧
        (evaluate scope (.node c (.operator .or)
          (children.map fun e ↦ .node d (.operator .not) [e]))).run g = (.ok v, g')

section Operators

theorem mapM_readTruth : (truths : List (Option Bool)) →
    (truths.map truthValue).mapM readTruth = .ok truths
  | [] => rfl
  | t :: truths => by
      rw [List.map_cons, List.mapM_cons, mapM_readTruth truths]
      cases t <;> rfl

theorem yields_of_truths (hop : op.signature = .tolerant (.atLeast 1) [.single] (.only [.boolean]))
    (htruths : truths ≠ []) {v : Value} (h : combine store op (truths.map truthValue) = .ok v) :
    Yields store op (truths.map truthValue) v := by
  refine yields_of_combine ?_ ?_ (fun hprop ↦ ?_) ?_ h
  · rintro rfl
    nomatch hop
  · rw [hop, List.length_map]
    exact decide_eq_true (List.length_pos_iff.2 htruths)
  · rw [hop] at hprop
    nomatch hprop
  · rw [List.forall_mem_map, hop]
    rintro (_ | b) -
    · exact nofun
    · exact Signature.admits_single (.head _) rfl

theorem threeValued_false (truths : List (Option Bool)) :
    threeValued false (truths.map truthValue) =
      .ok (truthValue (countedTruth truths.length truths.length truths)) := by
  have hlength := length_eq_counts truths
  have hfalse : some false ∈ truths ↔ 0 < truths.count (some false) := List.count_pos_iff.symm
  have hnone : none ∈ truths ↔ 0 < truths.count none := List.count_pos_iff.symm
  rw [threeValued, mapM_readTruth, countedTruth]
  simp only [bind, Except.bind, List.contains_iff_mem, hfalse, hnone]
  split_ifs <;> first | rfl | omega

theorem threeValued_true (truths : List (Option Bool)) :
    threeValued true (truths.map truthValue) =
      .ok (truthValue (countedTruth 1 truths.length truths)) := by
  have hlength := length_eq_counts truths
  have htrue : some true ∈ truths ↔ 0 < truths.count (some true) := List.count_pos_iff.symm
  have hnone : none ∈ truths ↔ 0 < truths.count none := List.count_pos_iff.symm
  rw [threeValued, mapM_readTruth, countedTruth]
  simp only [bind, Except.bind, List.contains_iff_mem, htrue, hnone]
  split_ifs <;> first | rfl | omega

theorem countTrue_eq (least most : Int64) (truths : List (Option Bool)) :
    countTrue least most (truths.map truthValue) =
      .ok (truthValue (countedTruth least.toInt most.toInt truths)) := by
  rw [countTrue, mapM_readTruth, countedTruth]
  simp only [bind, Except.bind]
  split_ifs <;> rfl

theorem yields_and (store : Store) (h : truths ≠ []) :
    Yields store .and (truths.map truthValue)
      (truthValue (countedTruth truths.length truths.length truths)) :=
  yields_of_truths rfl h (threeValued_false truths)

theorem yields_or (store : Store) (h : truths ≠ []) :
    Yields store .or (truths.map truthValue)
      (truthValue (countedTruth 1 truths.length truths)) :=
  yields_of_truths rfl h (threeValued_true truths)

theorem yields_anyN {l m : Literal Int64} {least most : Int64}
    (hl : literalInteger store l = .ok least) (hm : literalInteger store m = .ok most)
    (h : truths ≠ []) :
    Yields store (.anyN l m) (truths.map truthValue)
      (truthValue (countedTruth least.toInt most.toInt truths)) := by
  refine yields_of_truths rfl h ?_
  rw [combine, hl, hm]
  exact countTrue_eq least most truths

theorem countedTruth_perm {truths' : List (Option Bool)} (hperm : truths.Perm truths')
    (least most : ℤ) : countedTruth least most truths = countedTruth least most truths' := by
  rw [countedTruth, countedTruth, hperm.count_eq, hperm.count_eq]

/-! ### Denial -/

/-- The operator `.not` gives the other truth value. -/
theorem yields_not (store : Store) (t : Option Bool) :
    Yields store .not [truthValue t] (truthValue (t.map (!·))) := by
  cases t with
  | none => exact yields_null rfl rfl (List.mem_singleton_self _) rfl
  | some b =>
    refine yields_of_combine nofun rfl (fun _ ↦ ?_) ?_ rfl
    · exact List.forall_mem_singleton.2 rfl
    · exact List.forall_mem_singleton.2 (Signature.admits_single (.head _) rfl)

/-- Not all operands are true, by `countedTruth`, if one of those that are denied is. -/
theorem countedTruth_map_not (truths : List (Option Bool)) :
    (countedTruth truths.length truths.length truths).map (!·) =
      countedTruth 1 truths.length (truths.map fun t ↦ t.map (!·)) := by
  have hlength := length_eq_counts truths
  have hinjective : Function.Injective fun t : Option Bool ↦ t.map (!·) :=
    Option.map_injective Bool.involutive_not.injective
  have htrue : (truths.map fun t ↦ t.map (!·)).count (some true) = truths.count (some false) :=
    List.count_map_of_injective truths _ hinjective (some false)
  have hnone : (truths.map fun t ↦ t.map (!·)).count none = truths.count none :=
    List.count_map_of_injective truths _ hinjective none
  rw [countedTruth, countedTruth, htrue, hnone]
  split_ifs <;> first | rfl | omega

theorem run_evaluateAll_singleton {scope : Scope} {e : ExpressionTree} {g g' : Generator}
    {v : Value} (h : (evaluate scope e).run g = (.ok v, g')) :
    (evaluateAll scope [e]).run g = (.ok [v], g') := by
  rw [evaluateAll, run_bind_of_run_eq_ok h]
  rfl

/-- Operands that are denied one by one with `.not` draw what they draw. -/
theorem run_evaluateAll_not {scope : Scope} {children : List ExpressionTree} {g g' : Generator}
    (h : (evaluateAll scope children).run g = (.ok (truths.map truthValue), g')) (d : NodeId) :
    (evaluateAll scope (children.map fun e ↦ .node d (.operator .not) [e])).run g =
      (.ok ((truths.map fun t ↦ t.map (!·)).map truthValue), g') := by
  induction children generalizing truths g with
  | nil =>
    cases truths with
    | nil => exact h
    | cons => cases h
  | cons e children ih =>
    rw [evaluateAll] at h
    obtain ⟨v, g₁, hv, h⟩ := run_bind_eq_ok_iff.1 h
    obtain ⟨ws, g₂, hws, h⟩ := run_bind_eq_ok_iff.1 h
    cases truths with
    | nil => cases h
    | cons t truths =>
      obtain ⟨rfl, rfl, rfl⟩ : v = truthValue t ∧ ws = truths.map truthValue ∧ g₂ = g' := by
        cases h
        exact ⟨rfl, rfl, rfl⟩
      have hnot := yields_not scope.store t scope d [e] g g₁ rfl (run_evaluateAll_singleton hv)
      rw [List.map_cons, evaluateAll, run_bind_of_run_eq_ok hnot, run_bind_of_run_eq_ok (ih hws)]
      rfl

/-- The logical operators give the truth value on which all completions of their operands agree, and
`.null` if there is none. -/
theorem truthLaws (store : Store) (h : truths ≠ []) : TruthLaws store truths where
  and := by
    have hsettles := settles_countedTruth (Int.le_refl truths.length) truths
    refine ⟨_, yields_and store h, hsettles.congr fun bs hbs ↦ ?_⟩
    rw [all_eq_countsIn, hbs.length_eq]
  or := by
    have hpos : 1 ≤ (truths.length : ℤ) := by
      have := List.length_pos_iff.2 h
      omega
    have hsettles := settles_countedTruth hpos truths
    refine ⟨_, yields_or store h, hsettles.congr fun bs hbs ↦ ?_⟩
    rw [any_eq_countsIn, hbs.length_eq]
  anyN hl hm hle :=
    ⟨_, yields_anyN hl hm h, settles_countedTruth (Int64.le_iff_toInt_le.1 hle) truths⟩
  and_eq_anyN hl hm hn := by
    have hcounted := yields_anyN hl hm h
    rw [hn] at hcounted
    exact ⟨_, yields_and store h, hcounted⟩
  or_eq_anyN hl hm hn := by
    have hcounted := yields_anyN hl hm h
    rw [hn] at hcounted
    exact ⟨_, yields_or store h, hcounted⟩
  perm {truths'} hperm op hop := by
    have h' : truths' ≠ [] := fun hnil ↦ h (hnil ▸ hperm).eq_nil
    obtain rfl | rfl | ⟨l, m, least, most, rfl, hl, hm⟩ := hop
    · refine ⟨_, yields_and store h, ?_⟩
      rw [countedTruth_perm hperm, hperm.length_eq]
      exact yields_and store h'
    · refine ⟨_, yields_or store h, ?_⟩
      rw [countedTruth_perm hperm, hperm.length_eq]
      exact yields_or store h'
    · refine ⟨_, yields_anyN hl hm h, ?_⟩
      rw [countedTruth_perm hperm]
      exact yields_anyN hl hm h'
  not_and {scope children g g'} hscope hchildren a b c d := by
    subst hscope
    have hand := yields_and scope.store h scope b children g g' rfl hchildren
    have hnot := yields_not scope.store _ scope a _ g g' rfl (run_evaluateAll_singleton hand)
    have hdenied : truths.map (fun t ↦ t.map (!·)) ≠ [] := List.map_eq_nil_iff.not.2 h
    have hor := yields_or scope.store hdenied scope c _ g g' rfl (run_evaluateAll_not hchildren d)
    rw [List.length_map, ← countedTruth_map_not] at hor
    exact ⟨_, hnot, hor⟩

/-- One operand that is known to be true settles `.or`. -/
theorem truthLaws_unknown :
    [none, some true] ≠ [] ∧
      Yields ⟨[]⟩ .or ([none, some true].map truthValue) (.boolean true) := by
  refine ⟨nofun, ?_⟩
  obtain ⟨t, ht, hsettles⟩ := (truthLaws ⟨[]⟩ (List.cons_ne_nil none [some true])).or
  obtain rfl : t = some true := by
    rw [hsettles]
    rintro bs (_ | ⟨-, _ | ⟨hb, _ | _⟩⟩)
    obtain rfl := Option.some.inj (hb.resolve_left nofun)
    exact Bool.or_true _
  exact ht

end Operators

end AssessmentItem.Evaluation
