import AssessmentItem.Expression.Signature
import AssessmentItem.Item.Basic
import AssessmentItem.Proofs.Value.Typing

/-!
# Result types

An expression promises a type for its value.  That of a leaf is fixed or declared; that of an
operator follows from the values of its operands.  Arithmetic stays with integers as long as all its
operands are integers, a container has the base type of what it is built of, and what is taken from
a container or a record has the type that it has there.  NULL is of every type.

## Main definitions

* `ValueType`, `Value.HasType` : types, and the values of a type.
* `promotedType` : the base type of arithmetic.
* `Leaf.resultType?`, `Operator.resultType` : the types that leaves and operators promise.

## Main results

* `Value.baseType?_of_mem_members` : the members of a value have its base type.
-/

namespace AssessmentItem

/-- A `cardinality` with a base type; records have none. -/
structure ValueType where
  cardinality : Cardinality
  baseType : Option BaseType
  deriving DecidableEq

/-- The type of the `.single` values of a base type. -/
def ValueType.scalar (t : BaseType) : ValueType := ⟨.single, some t⟩

/-- The type of a variable. -/
def VariableDeclaration.type (d : VariableDeclaration) : ValueType := ⟨d.cardinality, d.baseType⟩

namespace Value

/-- The value is `.null`, or of exactly the `type`. -/
def HasType (v : Value) (type : ValueType) : Prop := v.OfType type.cardinality type.baseType

/-- The type of a value that is not NULL. -/
def type? (v : Value) : Option ValueType := v.cardinality?.map fun c ↦ ⟨c, v.baseType?⟩

/-- A field of a record. -/
def field? (name : String) : Value → Option Scalar
  | record fields => fields.find? name
  | _ => none

@[simp] theorem hasType_null (type : ValueType) : HasType .null type := ofType_null _ _

@[simp] theorem hasType_single (s : Scalar) : (single s).HasType (.scalar s.baseType) :=
  ofType_single rfl

@[simp] theorem hasType_boolean (b : Bool) : (boolean b).HasType (.scalar .boolean) :=
  ofType_single rfl

@[simp] theorem hasType_integer (n : Int64) : (integer n).HasType (.scalar .integer) :=
  ofType_single rfl

@[simp] theorem hasType_float (x : Float) : (float x).HasType (.scalar .float) := ofType_single rfl

/-- A value of a type; `.null` if there is no type. -/
def Fits (v : Value) : Option ValueType → Prop
  | some type => v.HasType type
  | none => v = .null

theorem HasType.wellFormed {v : Value} {type : ValueType} (h : v.HasType type) : v.WellFormed :=
  OfType.wellFormed h

theorem Fits.wellFormed {v : Value} {type : Option ValueType} (h : v.Fits type) :
    v.WellFormed := by
  cases type with
  | none =>
    rw [h]
    trivial
  | some type => exact HasType.wellFormed h

/-- The `members` of a value that is no record have its base type. -/
theorem baseType?_of_mem_members {v : Value} (hv : v.cardinality? ≠ some .record) {s : Scalar}
    (hs : s ∈ v.members) : v.baseType? = some s.baseType := by
  cases v with
  | null => cases hs
  | single t =>
    obtain rfl := List.mem_singleton.1 hs
    rfl
  | multiple c | ordered c => exact congrArg some (c.uniform s hs).symm
  | record fields => exact absurd rfl hv

end Value

/-! ### Promotion -/

/-- The base type of arithmetic on numbers of base types `types`. -/
def promotedType (types : List BaseType) : BaseType :=
  if types.all (· == .integer) then .integer else .float

/-- The base types of all members of `vs`. -/
def memberTypes (vs : List Value) : List BaseType :=
  vs.flatMap fun v ↦ v.members.map Scalar.baseType

/-! ### The types of expressions -/

/-- The type that a leaf promises among some `declarations`. There is none for `.null` and for
variables that are not declared. -/
def Leaf.resultType? (declarations : List VariableDeclaration) : Leaf → Option ValueType
  | baseValue s => some (.scalar s.baseType)
  | valueOf identifier | correctOf identifier | defaultOf identifier =>
    (findDeclaration? declarations identifier).map (·.type)
  | mapResponse _ | mapResponsePoint _ | randomFloat .. | mathConstant _ => some (.scalar .float)
  | randomInteger .. => some (.scalar .integer)
  | null => none

/-- The type that a function promises; with `abs` the magnitude of a number has its type. -/
def MathFunction.resultType (f : MathFunction) (vs : List Value) : ValueType :=
  match f with
  | floor | ceil | signum => .scalar .integer
  | abs => ⟨.single, vs.head?.bind Value.baseType?⟩
  | _ => .scalar .float

/-- The type that an operator promises for the values of its operands. -/
def Operator.resultType (op : Operator) (vs : List Value) : ValueType :=
  match op with
  | multiple => ⟨.multiple, vs.findSome? Value.baseType?⟩
  | ordered | repeated _ => ⟨.ordered, vs.findSome? Value.baseType?⟩
  | record _ => ⟨.record, none⟩
  | delete => (vs[1]?.bind Value.type?).getD ⟨.multiple, none⟩
  | index _ | random => ⟨.single, vs.head?.bind Value.baseType?⟩
  | fieldValue name => ⟨.single, (vs.head?.bind (Value.field? name)).map Scalar.baseType⟩
  | isNull | member | contains | not | and | or | anyN .. | same | substring _ | stringMatch ..
  | patternMatch _ | equal .. | equalRounded .. | inside _ | lt | gt | lte | gte | durationLT
  | durationGTE => .scalar .boolean
  | sum | product | subtract | max | min => .scalar (promotedType (memberTypes vs))
  | containerSize | integerDivide | integerModulus | truncate | round | gcd | lcm =>
    .scalar .integer
  | divide | power | integerToFloat | roundTo .. | statistic _ => .scalar .float
  | math f => f.resultType vs

end AssessmentItem
