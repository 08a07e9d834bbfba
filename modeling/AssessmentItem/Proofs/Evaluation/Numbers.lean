import AssessmentItem.Proofs.Evaluation.Signatures

/-!
# Operands of numbers

Operators that choose or combine numbers take them from single values and from containers alike: the
members of all operands are put one after the other.  The numbers are integers only if all of them
are.

## Main definitions

* `Evaluation.HoldsNumbers` : a single number or a container of numbers, with its members.
* `Evaluation.SpreadNumbers` : operands with the given numbers as their members.

## Main results

* `Evaluation.SpreadNumbers.readAllMembers_eq` : the members of operands are read.
* `Evaluation.exists_float_or_exists_integers` : numbers are integers, or one of them is not.
* `Evaluation.yields_of_members` : the value of an operator on members.
-/

namespace AssessmentItem.Evaluation

/-! ### Numbers -/

section Numbers

variable {xs : List Number}

/-- A number as a scalar. -/
def Number.toScalar : Number → Scalar
  | .integer n => .integer n
  | .float x => .float x

theorem Number.accepts_baseType (x : Number) : BaseTypes.numeric.accepts x.toScalar.baseType := by
  cases x <;> rfl

theorem mapM_numberOf?_scalars : (xs : List Number) →
    (xs.map Number.toScalar).mapM (fun s ↦ orUnreadable (numberOf? s)) = .ok xs
  | [] => rfl
  | x :: xs => by
      rw [List.map_cons, List.mapM_cons, mapM_numberOf?_scalars xs]
      cases x <;> rfl

/-- Members are not taken as integers where one of them is a `.float`. -/
theorem mapM_integer?_eq_none {y : Float} (h : .float y ∈ xs) : xs.mapM Number.integer? = none := by
  induction xs with
  | nil => nomatch h
  | cons x xs ih =>
    rw [List.mapM_cons]
    cases x with
    | float => rfl
    | integer n =>
      rw [ih ((List.mem_cons.1 h).resolve_left nofun)]
      rfl

theorem exists_float_or_exists_integers (xs : List Number) :
    (∃ y, .float y ∈ xs) ∨ ∃ ns : List Int64, xs = ns.map Number.integer := by
  induction xs with
  | nil => exact .inr ⟨[], rfl⟩
  | cons x xs ih =>
    cases x with
    | float y => exact .inl ⟨y, List.mem_cons_self⟩
    | integer n =>
      obtain ⟨y, hy⟩ | ⟨ns, rfl⟩ := ih
      · exact .inl ⟨y, List.mem_cons_of_mem _ hy⟩
      · exact .inr ⟨n :: ns, rfl⟩

end Numbers

/-! ### Operands -/

/-- A `.single` number or a container of numbers, with its members. -/
inductive HoldsNumbers : Value → List Number → Prop
  | single (x : Number) : HoldsNumbers (.single x.toScalar) [x]
  | multiple {c : Container} {xs : List Number} (hxs : xs ≠ [])
      (h : c.members = xs.map Number.toScalar) : HoldsNumbers (.multiple c) xs
  | ordered {c : Container} {xs : List Number} (hxs : xs ≠ [])
      (h : c.members = xs.map Number.toScalar) : HoldsNumbers (.ordered c) xs

/-- Operands with `HoldsNumbers`, with all their members one after the other. -/
inductive SpreadNumbers : List Value → List Number → Prop
  | nil : SpreadNumbers [] []
  | cons {v : Value} {vs : List Value} {xs ys : List Number} (hv : HoldsNumbers v xs)
      (hvs : SpreadNumbers vs ys) : SpreadNumbers (v :: vs) (xs ++ ys)

section Operands

variable {v : Value} {vs : List Value} {xs : List Number}

theorem HoldsNumbers.readMembers_eq (h : HoldsNumbers v xs) :
    readMembers v = .ok (xs.map Number.toScalar) := by
  cases h with
  | single => rfl
  | multiple _ h | ordered _ h => exact congrArg Except.ok h

theorem HoldsNumbers.ne_nil (h : HoldsNumbers v xs) : xs ≠ [] := by
  cases h with
  | single => exact List.cons_ne_nil _ _
  | multiple hxs | ordered hxs => exact hxs

theorem HoldsNumbers.isNull_eq (h : HoldsNumbers v xs) : v.isNull = false := by
  cases h with
  | single => rfl
  | multiple hxs h | ordered hxs h =>
    rw [Value.isNull, Container.isEmpty, h, List.isEmpty_eq_false_iff]
    exact fun hnil ↦ hxs (List.map_eq_nil_iff.1 hnil)

/-- The `baseType` of a container of numbers is that of its members. -/
theorem accepts_container {c : Container} (hxs : xs ≠ [])
    (h : c.members = xs.map Number.toScalar) : BaseTypes.numeric.accepts c.baseType := by
  obtain ⟨x, hx⟩ := List.exists_mem_of_ne_nil xs hxs
  rw [← c.uniform x.toScalar (h ▸ List.mem_map_of_mem hx)]
  exact x.accepts_baseType

theorem HoldsNumbers.admits (h : HoldsNumbers v xs) {arity : Arity} :
    (Signature.strict arity Signature.nonRecord .numeric).Admits v := by
  cases h with
  | single x => exact Signature.admits_single (.head _) x.accepts_baseType
  | multiple hxs h | ordered hxs h =>
    rintro _ ⟨⟩
    constructor
    · change _ ∈ Signature.nonRecord
      decide
    · rintro _ ⟨⟩
      exact accepts_container hxs h

theorem SpreadNumbers.forall_mem (h : SpreadNumbers vs xs) :
    ∀ v ∈ vs, ∃ ys, HoldsNumbers v ys := by
  induction h with
  | nil => exact nofun
  | cons hv _ ih => exact List.forall_mem_cons.2 ⟨⟨_, hv⟩, ih⟩

theorem SpreadNumbers.ne_nil (h : SpreadNumbers vs xs) (hvs : vs ≠ []) : xs ≠ [] := by
  cases h with
  | nil => exact absurd rfl hvs
  | cons hv _ => exact List.append_ne_nil_of_left_ne_nil hv.ne_nil _

theorem SpreadNumbers.readAllMembers_eq (h : SpreadNumbers vs xs) :
    readAllMembers vs = .ok (xs.map Number.toScalar) := by
  suffices hall : ∃ lists, vs.mapM readMembers = .ok lists ∧
      lists.flatten = xs.map Number.toScalar by
    obtain ⟨lists, hlists, hflatten⟩ := hall
    rw [readAllMembers, hlists, ← hflatten]
    rfl
  induction h with
  | nil => exact ⟨[], rfl, rfl⟩
  | @cons v vs xs ys hv _ ih =>
    obtain ⟨lists, hlists, hflatten⟩ := ih
    refine ⟨xs.map Number.toScalar :: lists, ?_, ?_⟩
    · rw [List.mapM_cons, hv.readMembers_eq, hlists]
      rfl
    · rw [List.flatten_cons, hflatten, List.map_append]

/-- An operator on the members of its operands gives the `result` of `combine`. -/
theorem yields_of_members {store : Store} {op : Operator} {types : BaseTypes} {result : Value}
    (hop : op.signature = .strict (.atLeast 1) Signature.nonRecord types) (hvs : vs ≠ [])
    (hoperands : ∀ w ∈ vs, w.isNull = false ∧
      (Signature.strict (.atLeast 1) Signature.nonRecord types).Admits w)
    (h : combine store op vs = .ok result) : Yields store op vs result := by
  refine yields_of_combine ?_ ?_ (fun _ w hw ↦ (hoperands w hw).1) (fun w hw ↦ ?_) h
  · rintro rfl
    nomatch hop
  · rw [hop]
    exact decide_eq_true (List.length_pos_iff.2 hvs)
  · rw [hop]
    exact (hoperands w hw).2

end Operands

end AssessmentItem.Evaluation
