import AssessmentItem.Evaluation.Operators

/-!
# Families of operators

The operators that draw nothing fall into four families.  What is shown of `combine` is shown family
by family, and `Operator.exists_belongs` puts the families together.

## Main definitions

* `OperatorFamily` : the four families.
* `Operator.Belongs` : the operators of a family.

## Main results

* `Operator.exists_belongs` : every operator other than `random` belongs to a family.
* `Evaluation.combine_of_length_ne` : `combine` finds a wrong number of operands unreadable.
-/

namespace AssessmentItem

/-- The families of the operators other than `.random`. -/
inductive OperatorFamily
  | containers
  | logic
  | comparison
  | arithmetic

/-- The operators of a family: every one but `.random` has one, by `Operator.exists_belongs`. -/
inductive Operator.Belongs : Operator → OperatorFamily → Prop
  -- containers
  | multiple : Belongs .multiple .containers
  | ordered : Belongs .ordered .containers
  | containerSize : Belongs .containerSize .containers
  | isNull : Belongs .isNull .containers
  | index (n : Literal Int64) : Belongs (.index n) .containers
  | fieldValue (field : String) : Belongs (.fieldValue field) .containers
  | member : Belongs .member .containers
  | delete : Belongs .delete .containers
  | contains : Belongs .contains .containers
  | repeated (times : Literal Int64) : Belongs (.repeated times) .containers
  | record (fields : List String) : Belongs (.record fields) .containers
  -- logic
  | not : Belongs .not .logic
  | and : Belongs .and .logic
  | or : Belongs .or .logic
  | anyN (least most : Literal Int64) : Belongs (.anyN least most) .logic
  -- comparison
  | same : Belongs .same .comparison
  | substring (caseSensitive : Bool) : Belongs (.substring caseSensitive) .comparison
  | stringMatch (caseSensitive substring : Bool) :
      Belongs (.stringMatch caseSensitive substring) .comparison
  | patternMatch (pattern : String) : Belongs (.patternMatch pattern) .comparison
  | equal (mode : ToleranceMode) (tolerances : List (Literal Float))
      (includesLower includesUpper : Bool) :
      Belongs (.equal mode tolerances includesLower includesUpper) .comparison
  | equalRounded (mode : RoundingMode) (figures : Literal Int64) :
      Belongs (.equalRounded mode figures) .comparison
  | inside (area : Area) : Belongs (.inside area) .comparison
  | lt : Belongs .lt .comparison
  | gt : Belongs .gt .comparison
  | lte : Belongs .lte .comparison
  | gte : Belongs .gte .comparison
  | durationLT : Belongs .durationLT .comparison
  | durationGTE : Belongs .durationGTE .comparison
  -- arithmetic
  | sum : Belongs .sum .arithmetic
  | product : Belongs .product .arithmetic
  | subtract : Belongs .subtract .arithmetic
  | divide : Belongs .divide .arithmetic
  | power : Belongs .power .arithmetic
  | integerDivide : Belongs .integerDivide .arithmetic
  | integerModulus : Belongs .integerModulus .arithmetic
  | truncate : Belongs .truncate .arithmetic
  | round : Belongs .round .arithmetic
  | integerToFloat : Belongs .integerToFloat .arithmetic
  | roundTo (mode : RoundingMode) (figures : Literal Int64) :
      Belongs (.roundTo mode figures) .arithmetic
  | max : Belongs .max .arithmetic
  | min : Belongs .min .arithmetic
  | gcd : Belongs .gcd .arithmetic
  | lcm : Belongs .lcm .arithmetic
  | statistic (statistic : Statistic) : Belongs (.statistic statistic) .arithmetic
  | math (function : MathFunction) : Belongs (.math function) .arithmetic

theorem Operator.exists_belongs {op : Operator} (hop : op ≠ .random) :
    ∃ family, op.Belongs family := by
  cases op with
  | random => exact absurd rfl hop
  | _ => exact ⟨_, by constructor⟩

/-- An operator whose signature fixes the number of its operands finds any other number of them
unreadable.  A function of `math` reads its operands before it counts them. -/
theorem Evaluation.combine_of_length_ne [PatternLibrary] (store : Store) {op : Operator}
    {vs : List Value} {n : Nat} (harity : op.signature.arity = .exactly n) (hvs : vs.length ≠ n) :
    combine store op vs = .error .unreadable ∨ ∃ f, op = .math f := by
  unfold combine
  split
  all_goals first
    | exact .inr ⟨_, rfl⟩
    | exact .inl rfl
    | exact absurd (Arity.exactly.inj harity) hvs
    | cases harity

end AssessmentItem
