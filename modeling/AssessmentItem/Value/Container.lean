import AssessmentItem.Value.Scalar

/-!
# Containers

A container is a list of scalars of one base type.  As a multiset two containers are equal if
every member of the one can be struck off against an equal member of the other.

## Main definitions

* `Container` : lists of scalars of one base type.
* `Container.ofMembers` : the container of a list, if its members have the base type.
* `sameMultiset`, `includesMultiset` : equality and inclusion of multisets.
-/

namespace AssessmentItem

/-- Why `Container.ofMembers` or `Value.container` builds nothing. -/
inductive ContainerFault
  /-- A member is of type `found`, the container of type `expected`. -/
  | mixed (expected found : BaseType)
  /-- The cardinality is not `multiple` or `ordered`. -/
  | notContainer (cardinality : Cardinality)
  deriving DecidableEq

/-- The wording of a `ContainerFault`. -/
def ContainerFault.message : ContainerFault → String
  | mixed expected found =>
    "container of " ++ expected.name ++ " cannot hold a " ++ found.name ++ " value"
  | notContainer cardinality =>
    "cardinality " ++ cardinality.name ++ " is not a container cardinality"

/-- A list of scalars of one `baseType`. -/
structure Container where
  baseType : BaseType
  members : List Scalar
  uniform : ∀ s ∈ members, s.baseType = baseType

namespace Container

/-- The container with the given `members`.  The first of them that is not of type `baseType` is
reported. -/
def ofMembers (baseType : BaseType) (members : List Scalar) : Except ContainerFault Container :=
  match h : members.find? fun s ↦ s.baseType != baseType with
  | some bad => .error (.mixed baseType bad.baseType)
  | none => .ok ⟨baseType, members, fun s hs ↦ by
      simpa using List.find?_eq_none.1 h s hs⟩

/-- The number of members. -/
def size (c : Container) : Nat := c.members.length

/-- Whether there are no members. -/
def isEmpty (c : Container) : Bool := c.members.isEmpty

end Container

/-! ### Multisets -/

/-- A list without the first member that `accepts`, if there is one. -/
def strike? (accepts : Scalar → Bool) : List Scalar → Option (List Scalar)
  | [] => none
  | s :: rest => if accepts s then some rest else (strike? accepts rest).map (s :: ·)

/-- Whether every member of the second list can be struck off against an equal member of `outer`. -/
def includesMultiset (outer : List Scalar) : List Scalar → Bool
  | [] => true
  | s :: inner =>
    match strike? (fun t ↦ t == s) outer with
    | some rest => includesMultiset rest inner
    | none => false

/-- Whether `a` and `b` have equal members with the same multiplicities. -/
def sameMultiset (a b : List Scalar) : Bool :=
  a.length == b.length && strikeAll a b
where
  /-- Strikes the members of the first list off against equal ones of the second, by `strike?`. -/
  strikeAll : List Scalar → List Scalar → Bool
    | [], _ => true
    | s :: a, b =>
      match strike? (fun t ↦ s == t) b with
      | some rest => strikeAll a rest
      | none => false

end AssessmentItem
