import AssessmentItem.Evaluation.Operand

/-!
# Operators on containers

Containers are built from the members of all operands, and are searched for members and for parts.

## Main definitions

* `gather`, `buildContainer` : the container of the members of all operands.
* `memberOf`, `deleteFrom`, `contains` : members and parts of containers.
* `sameValue` : equality of two operands of one type.
-/

namespace AssessmentItem.Evaluation

/-! ### Building -/

/-- The common base type of the operands that have one, and their members.  `found` is the base
type of the operands before these, `i` the number of the first one. -/
def gatherFrom (i : Nat) (found : Option BaseType) :
    List Value → Except Fault (Option BaseType × List Scalar)
  | [] => .ok (found, [])
  | v :: vs =>
    match v.baseType? with
    | none => gatherFrom (i + 1) found vs
    | some t =>
      match found.filter (· ≠ t) with
      | some expected => .error (.baseType i (.only [expected]) t)
      | none => do
        let (found, members) ← gatherFrom (i + 1) (some t) vs
        return (found, v.members ++ members)

/-- The common base type of the operands that have one, and their members, by `gatherFrom`. -/
def gather (vs : List Value) : Except Fault (Option BaseType × List Scalar) := gatherFrom 0 none vs

/-- The container of the members of all operands, `times` times over.  NULL adds no members. -/
def buildContainer (cardinality : Cardinality) (times : Nat) (vs : List Value) :
    Except Fault Value := do
  match ← gather vs with
  | (none, _) => return .null
  | (some t, members) =>
    if members.isEmpty then return .null
    else if members.length * times ≤ maxMembers then
      (Value.container cardinality t (List.replicate times members).flatten).mapError .container
    else throw (.tooManyMembers times members.length)

/-- A record of the operands that are `single` values, under the names `fields`; of two fields of
one name the later stays. -/
def buildRecord (fields : List String) (vs : List Value) : Value :=
  .ofRecord (.ofList ((fields.zip vs).filterMap fun e ↦ e.2.single?.map fun s ↦ (e.1, s)))

/-! ### Searching -/

/-- The single value `a` and the container `b` of its base type. -/
def readMemberAndContainer (a b : Value) : Except Fault (Scalar × Container) :=
  match a.single?, b.container? with
  | some s, some c =>
    if c.baseType = s.baseType then .ok (s, c)
    else .error (.baseType 1 (.only [s.baseType]) c.baseType)
  | some _, none =>
    .error (.cardinality 1 Signature.containers (b.cardinality?.getD .single))
  | none, _ => .error (.cardinality 0 [.single] (a.cardinality?.getD .single))

/-- Whether the container `b` has a member equal to the single value `a`. -/
def memberOf (a b : Value) : Except Fault Value := do
  let (s, c) ← readMemberAndContainer a b
  return .boolean (c.members.any fun t ↦ t == s)

/-- The container `b` without the members equal to the single value `a`. -/
def deleteFrom (a b : Value) : Except Fault Value := do
  let (s, c) ← readMemberAndContainer a b
  let rest := c.members.filter fun t ↦ !(t == s)
  (Value.container (b.cardinality?.getD .multiple) s.baseType rest).mapError .container

/-- The operands `a` and `b` have to be of one cardinality. -/
def checkSameCardinality (a b : Value) : Except Fault Unit :=
  match a.cardinality?, b.cardinality? with
  | some x, some y => if x = y then .ok () else .error (.cardinality 1 [x] y)
  | _, _ => .ok ()

/-- The operands `a` and `b` have to be of one base type. -/
def checkSameBaseType (a b : Value) : Except Fault Unit :=
  match a.baseType?, b.baseType? with
  | some x, some y => if x = y then .ok () else .error (.baseType 1 (.only [x]) y)
  | _, _ => .ok ()

/-- Whether `inner` occurs in another list as a run of neighbours. -/
def includesRun (inner : List Scalar) : List Scalar → Bool
  | [] => inner.isEmpty
  | s :: outer => inner.isPrefixOf (s :: outer) || includesRun inner outer

/-- Whether the container `b` is a part of `a`: a run of an `ordered` one, a multiset within a
`multiple` one. -/
def containsPart (a b : Value) : Except Fault Value := do
  checkSameCardinality a b
  checkSameBaseType a b
  match a, b with
  | .ordered outer, .ordered inner => return .boolean (includesRun inner.members outer.members)
  | .multiple outer, .multiple inner =>
    return .boolean (includesMultiset outer.members inner.members)
  | _, _ => throw .unreadable

/-- Whether two operands of one cardinality and base type are equal, by `Value.equal`. -/
def sameValue (a b : Value) : Except Fault Value := do
  checkSameCardinality a b
  checkSameBaseType a b
  return .boolean (a == b)

/-! ### Members by their place -/

/-- The number of members; it is `0` for NULL. -/
def containerSize (v : Value) : Except Fault Value :=
  if v.cardinality? = none then .ok (.integer 0)
  else do
    let c ← orUnreadable v.container?
    return .integer (Int64.ofNat c.size)

/-- The member with the number `n`, counted from one; NULL behind the last one. -/
def memberAt (n : Int64) (v : Value) : Except Fault Value := do
  if n < 1 then throw (.index n)
  let members ← readMembers v
  return (members[(n.toInt - 1).toNat]?.map Value.single).getD .null

/-- The field `name` of a record; NULL if there is none. -/
def fieldOf (name : String) (v : Value) : Except Fault Value :=
  match v with
  | .record fields => .ok (((fields.find? name).map Value.single).getD .null)
  | _ => .error .unreadable

end AssessmentItem.Evaluation
