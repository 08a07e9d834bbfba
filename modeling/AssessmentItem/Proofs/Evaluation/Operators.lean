import AssessmentItem.Evaluation.Basic
import AssessmentItem.Proofs.Evaluation.Families
import AssessmentItem.Proofs.Evaluation.Operands
import AssessmentItem.Proofs.Store.Typing

/-!
# What operators give

Whatever its operands are, an operator gives a value of the type that it promises, or a fault.  A
fault that refers to what is not there is the fault of a literal operand that names a variable; no
operator has another one of that sort.

## Main definitions

* `KeepsType` : a value is of the type that the operator promises, and a fault blames a literal
  operand.

## Main results

* `gives_combine` : the values and the faults of the operators that draw nothing.
-/

namespace AssessmentItem.Evaluation

/-! ### Arithmetic -/

@[simp] theorem hasType_integerOrNull (n : Option Int64) :
    (integerOrNull n).HasType (.scalar .integer) := by
  cases n with
  | none => exact Value.hasType_null _
  | some n => exact Value.hasType_integer n

@[simp] theorem hasType_finiteOrNull (x : Float) :
    (finiteOrNull x).HasType (.scalar .float) := by
  unfold finiteOrNull
  split
  · exact Value.hasType_float x
  · exact Value.hasType_null _

theorem gives_foldNumbers (exact : Int64 → Int64 → Option Int64) (rounded : Float → Float → Float)
    (start : Int64) (vs : List Value) :
    Gives (foldNumbers exact rounded start vs)
      (·.HasType (.scalar (promotedType (memberTypes vs)))) Inward := by
  rw [foldNumbers, gives_bind]
  refine gives_mapM_readNumber vs fun numbers htypes ↦ ?_
  rw [htypes, promotedType_numbers]
  cases numbers.mapM Number.integer? with
  | some integers => exact hasType_integerOrNull _
  | none => exact Value.hasType_float _

theorem gives_subtract (a b : Value) :
    Gives (subtract a b) (·.HasType (.scalar (promotedType (memberTypes [a, b])))) Inward := by
  rw [subtract, gives_bind]
  refine gives_readNumber_single a fun s x ha hx ↦ ?_
  rw [gives_bind]
  refine gives_readNumber_single b fun t y hb hy ↦ ?_
  have htypes : memberTypes [a, b] = [x, y].map Number.baseType := by
    rw [ha, hb, List.map_cons, List.map_cons, ← hx, ← hy]
    rfl
  rw [htypes, promotedType_numbers]
  cases x with
  | float x => exact Value.hasType_float _
  | integer m =>
    cases y with
    | float y => exact Value.hasType_float _
    | integer n => exact hasType_integerOrNull _

theorem gives_divide (a b : Value) : Gives (divide a b) (·.HasType (.scalar .float)) Inward := by
  rw [divide, gives_bind]
  refine gives_readFloat a fun x ↦ ?_
  rw [gives_bind]
  refine gives_readFloat b fun y ↦ ?_
  rw [gives_pure]
  split <;> simp

theorem gives_power (a b : Value) : Gives (power a b) (·.HasType (.scalar .float)) Inward := by
  rw [power, gives_bind]
  refine gives_readFloat a fun x ↦ ?_
  rw [gives_bind]
  exact gives_readFloat b fun y ↦ hasType_finiteOrNull _

theorem gives_onIntegers (f : Int64 → Int64 → Option Int64) (a b : Value) :
    Gives (onIntegers f a b) (·.HasType (.scalar .integer)) Inward := by
  rw [onIntegers, gives_bind]
  refine gives_readInteger a fun m ↦ ?_
  rw [gives_bind]
  exact gives_readInteger b fun n ↦ hasType_integerOrNull _

theorem gives_toWhole (rounding : Float → Float) (v : Value) :
    Gives (toWhole rounding v) (·.HasType (.scalar .integer)) Inward := by
  rw [toWhole, gives_bind]
  refine gives_readNumber v fun x ↦ ?_
  split <;> simp

theorem gives_toFloatValue (v : Value) :
    Gives (toFloatValue v) (·.HasType (.scalar .float)) Inward := by
  rw [toFloatValue]
  cases hw : v.widen? with
  | none => exact inward_unreadable
  | some w => exact Value.ofType_widen? hw

theorem gives_roundNumber (mode : RoundingMode) (figures : Int64) (v : Value) :
    Gives (roundNumber mode figures v) (·.HasType (.scalar .float)) Inward := by
  rw [roundNumber, gives_bind]
  refine gives_readFloat v fun x ↦ ?_
  rw [gives_bind, gives_mapError]
  exact gives_of_forall_eq (fun x _ ↦ Value.hasType_float x) fun _ _ h ↦ h

theorem gives_foldIntegers (f : Int64 → Int64 → Option Int64) (vs : List Value) :
    Gives (foldIntegers f vs) (·.HasType (.scalar .integer)) Inward := by
  rw [foldIntegers, gives_bind]
  refine gives_readAllMembers vs ?_
  rw [gives_bind]
  refine gives_mapM_read (fun s ↦ gives_orUnreadable _ fun _ ↦ trivial) _ fun ns ↦ ?_
  split <;> simp

theorem gives_extremum (greatest : Bool) (vs : List Value) :
    Gives (extremum greatest vs) (·.HasType (.scalar (promotedType (memberTypes vs)))) Inward := by
  rw [extremum, gives_bind]
  refine gives_readAllMembers vs ?_
  rw [gives_bind]
  refine gives_mapM_numberOf? _ fun numbers htypes ↦ ?_
  rw [List.map_flatMap] at htypes
  rw [memberTypes, htypes, promotedType_numbers]
  cases numbers.mapM Number.integer? with
  | some integers =>
    dsimp only
    cases preferred (fun (m n : Int64) ↦ if greatest then n < m else m < n) integers with
    | none => exact inward_unreadable
    | some n => exact Value.hasType_integer n
  | none =>
    dsimp only
    cases preferred (fun (x y : Float) ↦ if greatest then y < x else x < y)
      (numbers.map Number.toFloat) with
    | none => exact inward_unreadable
    | some x => exact Value.hasType_float x

@[simp] theorem hasType_statisticValue (statistic : Statistic) (xs : List Float) :
    (statisticValue statistic xs).HasType (.scalar .float) := by
  unfold statisticValue
  split
  · exact Value.hasType_null _
  · cases statistic <;> simp only [hasType_finiteOrNull] <;> split <;> simp

theorem gives_statisticOf (statistic : Statistic) (v : Value) :
    Gives (statisticOf statistic v) (·.HasType (.scalar .float)) Inward := by
  rw [statisticOf, gives_bind]
  refine gives_readMembers v fun _ ↦ ?_
  rw [gives_bind]
  exact gives_mapM_read (fun s ↦ gives_orUnreadable _ fun _ ↦ trivial) _ fun xs ↦
    hasType_statisticValue statistic xs

/-- What `functionValue` gives has its type for the number of its first operand. -/
theorem hasType_functionValue (f : MathFunction) (a : Number) (y : Float) {vs : List Value}
    (ha : vs.head?.bind Value.baseType? = some a.baseType) :
    (functionValue f a y).HasType (f.resultType vs) := by
  cases f <;> simp only [functionValue, MathFunction.resultType, hasType_finiteOrNull,
    hasType_integerOrNull]
  case abs =>
    rw [ha]
    cases a with
    | integer n => exact hasType_integerOrNull _
    | float x => exact hasType_finiteOrNull _
  case signum =>
    unfold signum
    split <;> simp

theorem gives_applyFunction (f : MathFunction) (vs : List Value) :
    Gives (applyFunction f vs) (·.HasType (f.resultType vs)) Inward := by
  rw [applyFunction, gives_bind]
  have hread := gives_mapM_map (f := readNumber) (φ := fun x ↦ some x.baseType)
    (ψ := Value.baseType?) (E := Inward) vs fun v _ ↦
      gives_readNumber_single v fun s x hs hx ↦ by rw [hs, ← hx]; rfl
  refine hread.mono (fun numbers htypes ↦ ?_) fun _ h ↦ h
  have first {a : Number} {rest : List Number} (h : numbers = a :: rest) :
      vs.head?.bind Value.baseType? = some a.baseType := by
    subst h
    cases vs with
    | nil => cases htypes
    | cons v vs => exact (List.cons.inj htypes).1.symm
  split
  · exact hasType_functionValue f _ 0 (first rfl)
  · exact hasType_functionValue f _ _ (first rfl)
  · exact inward_unreadable

/-! ### Logic and comparison -/

theorem gives_threeValued (dominant : Bool) (vs : List Value) :
    Gives (threeValued dominant vs) (·.HasType (.scalar .boolean)) Inward := by
  rw [threeValued, gives_bind]
  refine gives_mapM_read (fun v ↦ gives_readTruth v fun _ ↦ trivial) vs fun truths ↦ ?_
  split
  · simp
  · split <;> simp

theorem gives_countTrue (least most : Int64) (vs : List Value) :
    Gives (countTrue least most vs) (·.HasType (.scalar .boolean)) Inward := by
  rw [countTrue, gives_bind]
  refine gives_mapM_read (fun v ↦ gives_readTruth v fun _ ↦ trivial) vs fun truths ↦ ?_
  dsimp only
  split
  · simp
  · split <;> simp

theorem gives_negate (v : Value) : Gives (negate v) (·.HasType (.scalar .boolean)) Inward := by
  rw [negate, gives_bind]
  exact gives_readBoolean v fun b ↦ Value.hasType_boolean (!b)

theorem gives_comparedText (caseSensitive : Bool) (v : Value) {Q : List Char → Prop}
    (hQ : ∀ cs, Q cs) : Gives (comparedText caseSensitive v) Q Inward := by
  rw [comparedText, gives_bind]
  exact gives_readText v fun cs ↦ hQ _

theorem gives_substringOf (caseSensitive : Bool) (a b : Value) :
    Gives (substringOf caseSensitive a b) (·.HasType (.scalar .boolean)) Inward := by
  rw [substringOf, gives_bind]
  refine gives_comparedText caseSensitive a fun inner ↦ ?_
  rw [gives_bind]
  exact gives_comparedText caseSensitive b fun outer ↦ Value.hasType_boolean _

theorem gives_matchStrings (caseSensitive substring : Bool) (a b : Value) :
    Gives (matchStrings caseSensitive substring a b) (·.HasType (.scalar .boolean)) Inward := by
  rw [matchStrings, gives_bind]
  refine gives_comparedText caseSensitive a fun x ↦ ?_
  rw [gives_bind]
  exact gives_comparedText caseSensitive b fun y ↦ Value.hasType_boolean _

theorem gives_matchPattern (pattern : String) (v : Value) :
    Gives (matchPattern pattern v) (·.HasType (.scalar .boolean)) Inward := by
  rw [matchPattern, gives_bind]
  refine gives_readText v fun text ↦ ?_
  cases PatternLibrary.matchesWhole? pattern (String.ofList text) with
  | none => exact fun h ↦ h
  | some b => exact Value.hasType_boolean b

theorem gives_compareNumbers (accepts : Ordering → Bool) (a b : Value) :
    Gives (compareNumbers accepts a b) (·.HasType (.scalar .boolean)) Inward := by
  rw [compareNumbers, gives_bind]
  refine gives_readNumber a fun x ↦ ?_
  rw [gives_bind]
  exact gives_readNumber b fun y ↦ Value.hasType_boolean _

theorem gives_compareDurations (accepts : Ordering → Bool) (a b : Value) :
    Gives (compareDurations accepts a b) (·.HasType (.scalar .boolean)) Inward := by
  rw [compareDurations, gives_bind]
  refine gives_readSeconds a fun x ↦ ?_
  rw [gives_bind]
  exact gives_readSeconds b fun y ↦ Value.hasType_boolean _

/-- The equality of `equalNumbers` reads at most the first two tolerances. -/
theorem gives_equalNumbers (store : Store) (mode : ToleranceMode)
    (tolerances : List (Literal Float)) (includesLower includesUpper : Bool) (a b : Value) :
    Gives (equalNumbers store mode tolerances includesLower includesUpper a b)
      (·.HasType (.scalar .boolean)) (Blames store (tolerances.filterMap Literal.variable?)) := by
  rw [equalNumbers, gives_bind]
  refine gives_blames _ _ (gives_readFloat a fun x ↦ ?_)
  rw [gives_bind]
  refine gives_blames _ _ (gives_readFloat b fun y ↦ ?_)
  split
  · exact Value.hasType_boolean _
  · split
    · exact fun h ↦ h.elim
    · rename_i first rest
      rw [gives_bind]
      refine gives_literalNumber_of_mem store List.mem_cons_self fun t ↦ ?_
      cases rest with
      | nil => exact Value.hasType_boolean _
      | cons second rest =>
        rw [gives_bind]
        exact gives_literalNumber_of_mem store (by simp) fun u ↦ Value.hasType_boolean _

theorem gives_equalRoundedNumbers (mode : RoundingMode) (figures : Int64) (a b : Value) :
    Gives (equalRoundedNumbers mode figures a b) (·.HasType (.scalar .boolean)) Inward := by
  rw [equalRoundedNumbers, gives_bind]
  refine gives_readFloat a fun x ↦ ?_
  rw [gives_bind]
  refine gives_readFloat b fun y ↦ ?_
  rw [gives_bind, gives_mapError]
  exact gives_of_forall_eq (fun _ _ ↦ Value.hasType_boolean _) fun _ _ h ↦ h

theorem gives_anyInside (area : Area) (v : Value) :
    Gives (anyInside area v) (·.HasType (.scalar .boolean)) Inward := by
  rw [anyInside, gives_bind]
  exact gives_readMembers v fun members ↦ Value.hasType_boolean _

/-! ### Containers -/

/-- The base type that `gatherFrom` finds is that of the first operand with one. -/
theorem gives_gatherFrom : (vs : List Value) → (i : Nat) → (found : Option BaseType) →
    Gives (gatherFrom i found vs) (fun gathered ↦
      gathered.1 = found.or (vs.findSome? Value.baseType?)) Inward
  | [], _, found => by
      rw [gatherFrom, gives_ok, List.findSome?_nil, Option.or_none]
  | v :: vs, i, found => by
      rw [gatherFrom, List.findSome?_cons]
      split
      · rename_i hnone
        rw [hnone]
        exact gives_gatherFrom vs (i + 1) found
      · rename_i t ht
        split
        · exact fun h ↦ h
        · rename_i hsame
          have hfound : found.or (some t) = some t := by
            cases found with
            | none => rfl
            | some t' => simpa using hsame
          rw [gives_bind, ht, hfound]
          exact gives_gatherFrom vs (i + 1) (some t)

theorem gives_container (cardinality : Cardinality) (t : BaseType) (members : List Scalar) :
    Gives ((Value.container cardinality t members).mapError Fault.container)
      (·.HasType ⟨cardinality, some t⟩) Inward := by
  rw [gives_mapError]
  exact gives_of_forall_eq (fun v hv ↦ Value.ofType_container hv) fun _ _ h ↦ h

theorem gives_buildContainer (cardinality : Cardinality) (times : Nat) (vs : List Value) :
    Gives (buildContainer cardinality times vs)
      (·.HasType ⟨cardinality, vs.findSome? Value.baseType?⟩) Inward := by
  rw [buildContainer, gather, gives_bind]
  refine (gives_gatherFrom vs 0 none).mono (fun gathered htype ↦ ?_) fun _ h ↦ h
  rw [Option.none_or] at htype
  rw [← htype]
  split
  · exact Value.hasType_null _
  · split
    · exact Value.hasType_null _
    · split
      · exact gives_container _ _ _
      · exact fun h ↦ h

theorem gives_repeatMembers (n : Int64) (vs : List Value) :
    Gives (repeatMembers n vs) (·.HasType ⟨.ordered, vs.findSome? Value.baseType?⟩) Inward := by
  unfold repeatMembers
  split
  · exact Value.hasType_null _
  · exact gives_buildContainer _ _ vs

theorem hasType_buildRecord (fields : List String) (vs : List Value) :
    (buildRecord fields vs).HasType ⟨.record, none⟩ :=
  Value.ofType_ofRecord _ none

/-- The container that `readMemberAndContainer` reads is the second operand, of the base type of the
first. -/
theorem gives_readMemberAndContainer (a b : Value) {Q : Scalar × Container → Prop}
    (hQ : ∀ s c, b.container? = some c → c.baseType = s.baseType → Q (s, c)) :
    Gives (readMemberAndContainer a b) Q Inward := by
  unfold readMemberAndContainer
  split
  · rename_i s c _ hc
    split
    · rename_i htype
      exact hQ s c hc htype
    · exact fun h ↦ h
  · exact fun h ↦ h
  · exact fun h ↦ h

theorem gives_memberOf (a b : Value) :
    Gives (memberOf a b) (·.HasType (.scalar .boolean)) Inward := by
  rw [memberOf, gives_bind]
  exact gives_readMemberAndContainer a b fun _ _ _ _ ↦ Value.hasType_boolean _

/-- What `deleteFrom` leaves of a container has its type. -/
theorem gives_deleteFrom (a b : Value) :
    Gives (deleteFrom a b) (·.HasType (b.type?.getD ⟨.multiple, none⟩)) Inward := by
  rw [deleteFrom, gives_bind]
  refine gives_readMemberAndContainer a b fun s c hc htype ↦ ?_
  have hb : b.type? = some ⟨b.cardinality?.getD .multiple, some s.baseType⟩ := by
    cases b with
    | multiple d | ordered d =>
      obtain rfl := Option.some.inj hc
      rw [← htype]
      rfl
    | _ => cases hc
  rw [hb]
  exact gives_container _ _ _

theorem gives_checkSame (a b : Value) {Q : Unit → Prop} (hQ : Q ()) :
    Gives (checkSameCardinality a b) Q Inward ∧ Gives (checkSameBaseType a b) Q Inward := by
  unfold checkSameCardinality checkSameBaseType
  constructor
  · split
    · split
      · exact hQ
      · exact fun h ↦ h
    · exact hQ
  · split
    · split
      · exact hQ
      · exact fun h ↦ h
    · exact hQ

theorem gives_containsPart (a b : Value) :
    Gives (containsPart a b) (·.HasType (.scalar .boolean)) Inward := by
  unfold containsPart
  rw [gives_bind]
  refine (gives_checkSame a b ?_).1
  rw [gives_bind]
  refine (gives_checkSame a b ?_).2
  cases a <;> cases b <;> first | exact Value.hasType_boolean _ | exact fun h ↦ h

theorem gives_sameValue (a b : Value) :
    Gives (sameValue a b) (·.HasType (.scalar .boolean)) Inward := by
  rw [sameValue, gives_bind]
  refine (gives_checkSame a b ?_).1
  rw [gives_bind]
  exact (gives_checkSame a b (Value.hasType_boolean _)).2

theorem gives_containerSize (v : Value) :
    Gives (containerSize v) (·.HasType (.scalar .integer)) Inward := by
  unfold containerSize
  split
  · exact Value.hasType_integer _
  · rw [gives_bind]
    exact gives_orUnreadable _ fun c ↦ Value.hasType_integer _

/-- A scalar that was found as a `.single` value, `.null` if there is none. -/
theorem hasType_singleOrNull {s : Option Scalar} {t : Option BaseType}
    (h : ∀ a, s = some a → t = some a.baseType) :
    ((s.map Value.single).getD .null).HasType ⟨.single, t⟩ := by
  cases s with
  | none => exact Value.hasType_null _
  | some a =>
    rw [h a rfl]
    exact Value.hasType_single a

/-- What `memberAt` gives has the base type of its container. -/
theorem gives_memberAt (n : Int64) (v : Value) :
    Gives (memberAt n v) (·.HasType ⟨.single, v.baseType?⟩) Inward := by
  rw [memberAt]
  split
  · exact fun h ↦ h
  · rw [gives_bind]
    exact gives_readMembers v fun htype ↦ hasType_singleOrNull fun s hs ↦
      htype s (List.mem_of_getElem? hs)

theorem gives_fieldOf (name : String) (v : Value) :
    Gives (fieldOf name v) (·.HasType ⟨.single, (v.field? name).map Scalar.baseType⟩) Inward := by
  unfold fieldOf
  split
  · exact hasType_singleOrNull fun s hs ↦ congrArg (Option.map Scalar.baseType) hs
  · exact fun h ↦ h

/-! ### Scores -/

theorem gives_scoreResponse (mapping : Mapping) (v : Value) :
    Gives (scoreResponse mapping v) (·.HasType (.scalar .float)) Inward := by
  unfold scoreResponse
  cases v with
  | record fields => exact fun h ↦ h
  | _ => exact Value.hasType_float _

theorem gives_readPoints (identifier : String) (v : Value) {Q : List (Int64 × Int64) → Prop}
    (hQ : ∀ ps, Q ps) : Gives (readPoints identifier v) Q Inward := by
  refine gives_mapM_read (fun s ↦ ?_) v.members hQ
  split
  · trivial
  · exact fun h ↦ h

theorem gives_scorePoints (mapping : AreaMapping) (identifier : String) (v : Value) :
    Gives (scorePoints mapping identifier v) (·.HasType (.scalar .float)) Inward := by
  rw [scorePoints]
  split
  · exact Value.hasType_float _
  · split
    · exact fun h ↦ h
    · rw [gives_bind]
      exact gives_readPoints identifier v fun points ↦ Value.hasType_float _

/-! ### All operators -/

/-- What `combine` gives for `vs` is of the `Operator.resultType`, and a fault blames the variables
that `op` names. -/
abbrev KeepsType (store : Store) (op : Operator) (vs : List Value) : Prop :=
  Gives (combine store op vs) (·.HasType (op.resultType vs)) (Blames store op.namedVariables)

section Combine

variable {store : Store} {op : Operator} {vs : List Value}

/-- Another number of operands than the signature fixes need not be looked at. -/
theorem gives_combine_of_arity {n : Nat} (harity : op.signature.arity = .exactly n)
    (h : vs.length = n → KeepsType store op vs) : KeepsType store op vs := by
  by_cases hvs : vs.length = n
  · exact h hvs
  · obtain hunreadable | ⟨f, rfl⟩ := combine_of_length_ne store harity hvs
    · rw [KeepsType, hunreadable]
      exact fun h ↦ h.elim
    · exact gives_blames _ _ (gives_applyFunction f vs)

theorem gives_combine_one (harity : op.signature.arity = .exactly 1)
    (h : ∀ v, KeepsType store op [v]) : KeepsType store op vs := by
  refine gives_combine_of_arity harity fun hvs ↦ ?_
  obtain ⟨v, rfl⟩ := List.length_eq_one_iff.1 hvs
  exact h v

theorem gives_combine_two (harity : op.signature.arity = .exactly 2)
    (h : ∀ a b, KeepsType store op [a, b]) : KeepsType store op vs := by
  refine gives_combine_of_arity harity fun hvs ↦ ?_
  obtain ⟨a, b, rfl⟩ := List.length_eq_two.1 hvs
  exact h a b

theorem gives_combine_containers (h : op.Belongs .containers) : KeepsType store op vs := by
  cases h with
  | multiple => exact gives_blames _ _ (gives_buildContainer .multiple 1 vs)
  | ordered => exact gives_blames _ _ (gives_buildContainer .ordered 1 vs)
  | repeated n =>
    refine (gives_bind _ _).2 (gives_literalInteger store n fun n ↦ ?_)
    exact gives_blames _ _ (gives_repeatMembers n vs)
  | record fields => exact hasType_buildRecord fields vs
  | containerSize => exact gives_combine_one rfl fun v ↦ gives_blames _ _ (gives_containerSize v)
  | isNull => exact gives_combine_one rfl fun v ↦ Value.hasType_boolean _
  | index n =>
    refine gives_combine_one rfl fun v ↦ (gives_bind _ _).2 ?_
    exact gives_literalInteger store n fun n ↦ gives_blames _ _ (gives_memberAt n v)
  | fieldValue field => exact gives_combine_one rfl fun v ↦ gives_blames _ _ (gives_fieldOf field v)
  | member => exact gives_combine_two rfl fun a b ↦ gives_blames _ _ (gives_memberOf a b)
  | delete => exact gives_combine_two rfl fun a b ↦ gives_blames _ _ (gives_deleteFrom a b)
  | contains => exact gives_combine_two rfl fun a b ↦ gives_blames _ _ (gives_containsPart a b)

theorem gives_combine_logic (h : op.Belongs .logic) : KeepsType store op vs := by
  cases h with
  | not => exact gives_combine_one rfl fun v ↦ gives_blames _ _ (gives_negate v)
  | and => exact gives_blames _ _ (gives_threeValued false vs)
  | or => exact gives_blames _ _ (gives_threeValued true vs)
  | anyN least most =>
    refine (gives_bind _ _).2 (gives_literalInteger_of_mem store List.mem_cons_self fun least ↦ ?_)
    refine (gives_bind _ _).2 (gives_literalInteger_of_mem store (by simp) fun most ↦ ?_)
    exact gives_blames _ _ (gives_countTrue least most vs)

theorem gives_combine_comparison (h : op.Belongs .comparison) : KeepsType store op vs := by
  cases h with
  | same => exact gives_combine_two rfl fun a b ↦ gives_blames _ _ (gives_sameValue a b)
  | substring caseSensitive =>
    exact gives_combine_two rfl fun a b ↦ gives_blames _ _ (gives_substringOf caseSensitive a b)
  | stringMatch caseSensitive substring =>
    refine gives_combine_two rfl fun a b ↦ ?_
    exact gives_blames _ _ (gives_matchStrings caseSensitive substring a b)
  | patternMatch pattern =>
    exact gives_combine_one rfl fun v ↦ gives_blames _ _ (gives_matchPattern pattern v)
  | equal mode tolerances includesLower includesUpper =>
    refine gives_combine_two rfl fun a b ↦ ?_
    exact gives_equalNumbers store mode tolerances includesLower includesUpper a b
  | equalRounded mode figures =>
    refine gives_combine_two rfl fun a b ↦ (gives_bind _ _).2 ?_
    exact gives_literalInteger store figures fun figures ↦
      gives_blames _ _ (gives_equalRoundedNumbers mode figures a b)
  | inside area => exact gives_combine_one rfl fun v ↦ gives_blames _ _ (gives_anyInside area v)
  | lt | gt | lte | gte =>
    exact gives_combine_two rfl fun a b ↦ gives_blames _ _ (gives_compareNumbers _ a b)
  | durationLT | durationGTE =>
    exact gives_combine_two rfl fun a b ↦ gives_blames _ _ (gives_compareDurations _ a b)

theorem gives_combine_arithmetic (h : op.Belongs .arithmetic) : KeepsType store op vs := by
  cases h with
  | sum | product => exact gives_blames _ _ (gives_foldNumbers _ _ _ vs)
  | max | min => exact gives_blames _ _ (gives_extremum _ vs)
  | gcd | lcm => exact gives_blames _ _ (gives_foldIntegers _ vs)
  | math f => exact gives_blames _ _ (gives_applyFunction f vs)
  | subtract => exact gives_combine_two rfl fun a b ↦ gives_blames _ _ (gives_subtract a b)
  | divide => exact gives_combine_two rfl fun a b ↦ gives_blames _ _ (gives_divide a b)
  | power => exact gives_combine_two rfl fun a b ↦ gives_blames _ _ (gives_power a b)
  | integerDivide | integerModulus =>
    exact gives_combine_two rfl fun a b ↦ gives_blames _ _ (gives_onIntegers _ a b)
  | truncate | round => exact gives_combine_one rfl fun v ↦ gives_blames _ _ (gives_toWhole _ v)
  | integerToFloat => exact gives_combine_one rfl fun v ↦ gives_blames _ _ (gives_toFloatValue v)
  | roundTo mode figures =>
    refine gives_combine_one rfl fun v ↦ (gives_bind _ _).2 ?_
    exact gives_literalInteger store figures fun figures ↦
      gives_blames _ _ (gives_roundNumber mode figures v)
  | statistic statistic =>
    exact gives_combine_one rfl fun v ↦ gives_blames _ _ (gives_statisticOf statistic v)

end Combine

/-- Every operator that draws nothing has `KeepsType`: what is shown of each family is put
together. -/
theorem gives_combine (store : Store) (op : Operator) (vs : List Value) :
    KeepsType store op vs := by
  by_cases hop : op = .random
  · subst hop
    exact fun h ↦ h.elim
  · obtain ⟨family, h⟩ := Operator.exists_belongs hop
    cases family with
    | containers => exact gives_combine_containers h
    | logic => exact gives_combine_logic h
    | comparison => exact gives_combine_comparison h
    | arithmetic => exact gives_combine_arithmetic h

end AssessmentItem.Evaluation
