import AssessmentItem.Proofs.Evaluation.Basic
import AssessmentItem.Proofs.Evaluation.Signatures

/-!
# Operands are read

An operator reads its operands as what its signature promises, and where an operand is something
else the fault is that it is unreadable.  After the check of the operands this never happens: what a
signature admits, once NULL is out of the way where NULL propagates, has the form in which the
operator reads it, and there are as many operands as it reads.

## Main definitions

* `Signature.Passes` : the operands that reach an operator with a signature.
* `Evaluation.Reads` : a result that is not due to an unreadable operand.

## Main results

* `Signature.Passes.isSingle`, `Signature.Passes.hasMembers` : the forms of operands.
* `Evaluation.reads_combine` : no operator that draws nothing finds an operand unreadable.
-/

namespace AssessmentItem

/-! ### The forms of operands -/

/-- An operand as it reaches an operator with a `signature`: it is a value as values are built, the
signature admits it, and it is not NULL where NULL propagates. -/
structure Signature.Passes (signature : Signature) (v : Value) : Prop where
  wellFormed : v.WellFormed
  admits : signature.Admits v
  notNull : signature.nullPropagates → v.isNull = false

/-- A `.single` value of one of the base types `types`. -/
def Value.IsSingle (types : BaseTypes) (v : Value) : Prop :=
  ∃ s, v = .single s ∧ types.accepts s.baseType

/-- A value with members, all of base types among `types`, that is no record. -/
def Value.HasMembers (types : BaseTypes) (v : Value) : Prop :=
  Evaluation.readMembers v = .ok v.members ∧ v.members ≠ [] ∧
    ∀ s ∈ v.members, types.accepts s.baseType

namespace Signature.Passes

variable {signature : Signature} {v : Value}

/-- An operand that is not NULL has a cardinality that the signature names. -/
theorem exists_cardinality (h : signature.Passes v) (hnull : v.isNull = false) :
    ∃ k ∈ signature.cardinalities, v.cardinality? = some k := by
  have hk : ∃ k, v.cardinality? = some k := by
    cases v with
    | null => cases hnull
    | _ => exact ⟨_, rfl⟩
  obtain ⟨k, hk⟩ := hk
  exact ⟨k, (h.admits k hk).1, hk⟩

theorem isSingle_of_notNull (h : signature.Passes v) (hcard : signature.cardinalities = [.single])
    (hnull : v.isNull = false) : v.IsSingle signature.baseTypes := by
  obtain ⟨k, hk, hv⟩ := h.exists_cardinality hnull
  rw [hcard, List.mem_singleton] at hk
  subst hk
  cases v with
  | single s => exact ⟨s, rfl, (h.admits _ rfl).2 _ rfl⟩
  | _ => cases hv

/-- A strict operator on single values gets values that are `IsSingle`. -/
theorem isSingle (h : signature.Passes v) (hcard : signature.cardinalities = [.single])
    (hstrict : signature.nullPropagates) : v.IsSingle signature.baseTypes :=
  h.isSingle_of_notNull hcard (h.notNull hstrict)

/-- A strict operator that takes no record gets values with `HasMembers`. -/
theorem hasMembers (h : signature.Passes v)
    (hcard : signature.cardinalities.contains .record = false)
    (hstrict : signature.nullPropagates) : v.HasMembers signature.baseTypes := by
  obtain ⟨k, hk, hv⟩ := h.exists_cardinality (h.notNull hstrict)
  have hbase := (h.admits k hv).2
  cases v with
  | null => cases hv
  | single s => exact ⟨rfl, List.cons_ne_nil _ _, List.forall_mem_singleton.2 (hbase _ rfl)⟩
  | multiple c | ordered c =>
    exact ⟨rfl, h.wellFormed.1, fun s hs ↦ hbase _ (congrArg some (c.uniform s hs).symm)⟩
  | record fields =>
    cases hv
    rw [List.contains_iff_mem.2 hk] at hcard
    cases hcard

/-- A strict operator on containers gets such. -/
theorem exists_container (h : signature.Passes v)
    (hcard : signature.cardinalities = Signature.containers) (hstrict : signature.nullPropagates) :
    ∃ c, v = .multiple c ∨ v = .ordered c := by
  obtain ⟨k, hk, hv⟩ := h.exists_cardinality (h.notNull hstrict)
  rw [hcard] at hk
  cases v with
  | null => cases hv
  | multiple c => exact ⟨c, .inl rfl⟩
  | ordered c => exact ⟨c, .inr rfl⟩
  | single | record =>
    cases hv
    simp [Signature.containers] at hk

end Signature.Passes

namespace Evaluation

/-! ### Results that are no fallbacks -/

/-- The fault is not `.unreadable`. -/
def Legible : Fault → Prop
  | .unreadable => False
  | _ => True

theorem Legible.ne {fault : Fault} (h : Legible fault) : fault ≠ .unreadable := by
  rintro rfl
  exact h

/-- A result that is not due to an unreadable operand. -/
def Reads {α : Type} (r : Except Fault α) : Prop := Gives r (fun _ ↦ True) Legible

section Reads

variable {α β : Type} {r : Except Fault α} {f : α → Except Fault β}

theorem Reads.bind (h : Reads r) (hf : ∀ a, Reads (f a)) : Reads (r >>= f) := by
  rw [Reads, gives_bind]
  exact h.of_forall hf

theorem reads_bind_of_eq {a : α} (h : r = .ok a) (hf : Reads (f a)) : Reads (r >>= f) := by
  rw [h]
  exact hf

theorem reads_of_exists (h : ∃ a, r = .ok a) : Reads r := by
  obtain ⟨a, rfl⟩ := h
  trivial

theorem reads_mapError {ε : Type} {r : Except ε α} {f : ε → Fault} (hf : ∀ e, Legible (f e)) :
    Reads (r.mapError f) := by
  rw [Reads, gives_mapError]
  exact (gives_any r).mono (fun _ h ↦ h) fun e _ ↦ hf e

theorem reads_mapM {f : β → Except Fault α} {l : List β} (h : ∀ b ∈ l, Reads (f b)) :
    Reads (l.mapM f) :=
  (gives_mapM l h).mono (fun _ _ ↦ trivial) fun _ h ↦ h

end Reads

end Evaluation

/-! ### Readers -/

section Content

open Evaluation

variable {s : Scalar}

theorem Scalar.isSome_integer? (h : (BaseTypes.only [.integer]).accepts s.baseType) :
    s.integer?.isSome := by
  cases s with
  | integer => rfl
  | _ => nomatch h

theorem Scalar.isSome_number? (h : BaseTypes.numeric.accepts s.baseType) :
    s.number?.isSome := by
  cases s with
  | integer | float => rfl
  | _ => nomatch h

theorem Scalar.isSome_numberOf? (h : BaseTypes.numeric.accepts s.baseType) :
    (numberOf? s).isSome := by
  cases s with
  | integer | float => rfl
  | _ => nomatch h

theorem Scalar.isSome_boolean? (h : (BaseTypes.only [.boolean]).accepts s.baseType) :
    s.boolean?.isSome := by
  cases s with
  | boolean => rfl
  | _ => nomatch h

theorem Scalar.isSome_text? (h : (BaseTypes.only [.string]).accepts s.baseType) :
    s.text?.isSome := by
  cases s with
  | string => rfl
  | _ => nomatch h

end Content

namespace Value

open Evaluation

variable {v : Value}

namespace IsSingle

/-- What `f` finds in all scalars of the base types `types` is read of a single value of one of
them. -/
theorem exists_content {α : Type} {f : Scalar → Option α} {types : BaseTypes}
    (h : v.IsSingle types) (hf : ∀ s : Scalar, types.accepts s.baseType → (f s).isSome) :
    ∃ a, orUnreadable (v.single?.bind f) = .ok a := by
  obtain ⟨s, rfl, hs⟩ := h
  obtain ⟨a, ha⟩ := Option.isSome_iff_exists.1 (hf s hs)
  exact ⟨a, congrArg orUnreadable ha⟩

theorem exists_readNumber (h : v.IsSingle .numeric) : ∃ x, readNumber v = .ok x :=
  h.exists_content fun _ ↦ Scalar.isSome_numberOf?

theorem reads_number (h : v.IsSingle .numeric) : Reads (readNumber v) :=
  reads_of_exists h.exists_readNumber

theorem reads_float (h : v.IsSingle .numeric) : Reads (readFloat v) :=
  h.reads_number.bind fun _ ↦ trivial

theorem reads_integer (h : v.IsSingle (.only [.integer])) : Reads (readInteger v) :=
  reads_of_exists (h.exists_content fun _ ↦ Scalar.isSome_integer?)

theorem reads_boolean (h : v.IsSingle (.only [.boolean])) : Reads (readBoolean v) :=
  reads_of_exists (h.exists_content fun _ ↦ Scalar.isSome_boolean?)

theorem reads_text (h : v.IsSingle (.only [.string])) : Reads (readText v) :=
  (reads_of_exists (h.exists_content fun _ ↦ Scalar.isSome_text?)).bind fun _ ↦ trivial

theorem reads_floatValue (h : v.IsSingle (.only [.integer])) : Reads (toFloatValue v) := by
  obtain ⟨s, rfl, hs⟩ := h
  cases s with
  | integer => trivial
  | _ => nomatch hs

theorem reads_seconds (h : v.IsSingle (.only [.duration])) : Reads (readSeconds v) := by
  obtain ⟨s, rfl, hs⟩ := h
  cases s with
  | duration => trivial
  | _ => nomatch hs

end IsSingle

theorem HasMembers.reads_members {types : BaseTypes} (h : v.HasMembers types) :
    Reads (readMembers v) :=
  reads_of_exists ⟨_, h.1⟩

end Value

namespace Evaluation

/-- A truth value is what `readTruth` reads of NULL and of what is not. -/
theorem reads_readTruth {signature : Signature} {v : Value} (h : signature.Passes v)
    (hcard : signature.cardinalities = [.single])
    (hbase : signature.baseTypes = .only [.boolean]) : Reads (readTruth v) := by
  unfold readTruth
  split
  · trivial
  · rename_i hnull
    have hv := h.isSingle_of_notNull hcard (Bool.eq_false_iff.2 hnull)
    rw [hbase] at hv
    rw [Reads, gives_map]
    exact hv.reads_boolean

/-- The members of operands with `HasMembers` are read, and there are some. -/
theorem exists_readAllMembers {types : BaseTypes} {vs : List Value} (hne : vs ≠ [])
    (h : ∀ v ∈ vs, v.HasMembers types) :
    ∃ s rest, readAllMembers vs = .ok (s :: rest) ∧ ∀ t ∈ s :: rest, types.accepts t.baseType := by
  obtain ⟨lists, hlists, hlength, hall⟩ := exists_mapM_eq_ok
    (Q := fun l ↦ l ≠ [] ∧ ∀ t ∈ l, types.accepts t.baseType) vs fun v hv ↦
      ⟨v.members, (h v hv).1, (h v hv).2⟩
  have hread : readAllMembers vs = .ok lists.flatten := by
    rw [readAllMembers, hlists]
    rfl
  have haccepts : ∀ t ∈ lists.flatten, types.accepts t.baseType := by
    intro t ht
    obtain ⟨l, hl, htl⟩ := List.mem_flatten.1 ht
    exact (hall l hl).2 t htl
  cases hflatten : lists.flatten with
  | cons s rest => exact ⟨s, rest, hflatten ▸ hread, hflatten ▸ haccepts⟩
  | nil =>
    cases lists with
    | nil => exact absurd (List.length_eq_zero_iff.1 hlength.symm) hne
    | cons l lists =>
      exact absurd (List.flatten_eq_nil_iff.1 hflatten l (.head _)) (hall l (.head _)).1

/-- What `f` finds in every scalar is read of all of them. -/
theorem exists_mapM_orUnreadable {α : Type} {f : Scalar → Option α} {members : List Scalar}
    (h : ∀ s ∈ members, (f s).isSome) :
    ∃ as, members.mapM (fun s ↦ orUnreadable (f s)) = .ok as ∧ as.length = members.length := by
  obtain ⟨as, has, hlength, -⟩ := exists_mapM_eq_ok (f := fun s ↦ orUnreadable (f s))
    (Q := fun _ ↦ True) members fun s hs ↦ by
      obtain ⟨a, ha⟩ := Option.isSome_iff_exists.1 (h s hs)
      exact ⟨a, by rw [ha]; rfl, trivial⟩
  exact ⟨as, has, hlength⟩

/-! ### Literal operands -/

theorem reads_literalInteger (store : Store) (n : Literal Int64) :
    Reads (literalInteger store n) := by
  cases n with
  | given n => trivial
  | named name =>
    rw [literalInteger]
    split
    · trivial
    · split
      · trivial
      · trivial

theorem reads_literalNumber (store : Store) (x : Literal Float) :
    Reads (literalNumber store x) := by
  cases x with
  | given x => trivial
  | named name =>
    rw [literalNumber]
    split
    · trivial
    · split
      · trivial
      · trivial

/-! ### Arithmetic -/

section Arithmetic

variable {a b v : Value} {vs : List Value}

theorem reads_foldNumbers (exact : Int64 → Int64 → Option Int64) (rounded : Float → Float → Float)
    (start : Int64) (h : ∀ v ∈ vs, v.IsSingle .numeric) :
    Reads (foldNumbers exact rounded start vs) := by
  refine (reads_mapM fun v hv ↦ (h v hv).reads_number).bind fun numbers ↦ ?_
  cases numbers.mapM Number.integer? <;> trivial

theorem reads_subtract (ha : a.IsSingle .numeric) (hb : b.IsSingle .numeric) :
    Reads (subtract a b) := by
  refine ha.reads_number.bind fun x ↦ hb.reads_number.bind fun y ↦ ?_
  cases x <;> cases y <;> trivial

theorem reads_divide (ha : a.IsSingle .numeric) (hb : b.IsSingle .numeric) :
    Reads (divide a b) :=
  ha.reads_float.bind fun _ ↦ hb.reads_float.bind fun _ ↦ trivial

theorem reads_power (ha : a.IsSingle .numeric) (hb : b.IsSingle .numeric) : Reads (power a b) :=
  ha.reads_float.bind fun _ ↦ hb.reads_float.bind fun _ ↦ trivial

theorem reads_onIntegers (f : Int64 → Int64 → Option Int64) (ha : a.IsSingle (.only [.integer]))
    (hb : b.IsSingle (.only [.integer])) : Reads (onIntegers f a b) :=
  ha.reads_integer.bind fun _ ↦ hb.reads_integer.bind fun _ ↦ trivial

theorem reads_toWhole (rounding : Float → Float) (hv : v.IsSingle .numeric) :
    Reads (toWhole rounding v) := by
  refine hv.reads_number.bind fun x ↦ ?_
  cases x <;> trivial

theorem reads_roundNumber (mode : RoundingMode) (figures : Int64) (hv : v.IsSingle .numeric) :
    Reads (roundNumber mode figures v) :=
  hv.reads_float.bind fun _ ↦ (reads_mapError (f := .rounding) fun _ ↦ trivial).bind fun _ ↦ trivial

theorem reads_foldIntegers (f : Int64 → Int64 → Option Int64) (hne : vs ≠ [])
    (h : ∀ v ∈ vs, v.HasMembers (.only [.integer])) : Reads (foldIntegers f vs) := by
  obtain ⟨s, rest, hread, htypes⟩ := exists_readAllMembers hne h
  obtain ⟨ns, hns, hlength⟩ :=
    exists_mapM_orUnreadable fun t ht ↦ Scalar.isSome_integer? (htypes t ht)
  refine reads_bind_of_eq hread (reads_bind_of_eq hns ?_)
  cases ns with
  | nil => cases hlength
  | cons n ns => trivial

theorem reads_preferred {α : Type} (better : α → α → Bool) (f : α → Value) {l : List α}
    (h : l ≠ []) : Reads (orUnreadable ((preferred better l).map f)) := by
  cases l with
  | nil => exact absurd rfl h
  | cons a l => trivial

theorem reads_extremum (greatest : Bool) (hne : vs ≠ [])
    (h : ∀ v ∈ vs, v.HasMembers .numeric) : Reads (extremum greatest vs) := by
  obtain ⟨s, rest, hread, htypes⟩ := exists_readAllMembers hne h
  obtain ⟨numbers, hnumbers, hlength⟩ :=
    exists_mapM_orUnreadable fun t ht ↦ Scalar.isSome_numberOf? (htypes t ht)
  refine reads_bind_of_eq hread (reads_bind_of_eq hnumbers ?_)
  cases numbers with
  | nil => cases hlength
  | cons x numbers =>
    dsimp only
    split
    · rename_i integers hintegers
      rw [List.mapM_cons] at hintegers
      obtain ⟨m, -, hintegers⟩ := Option.bind_eq_some_iff.1 hintegers
      obtain ⟨ms, -, hintegers⟩ := Option.bind_eq_some_iff.1 hintegers
      refine reads_preferred _ _ ?_
      rw [← Option.some.inj hintegers]
      exact List.cons_ne_nil m ms
    · exact reads_preferred _ _ (List.cons_ne_nil _ _)

theorem reads_statisticOf (statistic : Statistic) (hv : v.HasMembers .numeric) :
    Reads (statisticOf statistic v) := by
  obtain ⟨xs, hxs, -⟩ := exists_mapM_orUnreadable fun t ht ↦ Scalar.isSome_number? (hv.2.2 t ht)
  exact reads_bind_of_eq hv.1 (reads_bind_of_eq hxs trivial)

/-- The function `f` has one operand or two. -/
theorem reads_applyFunction (f : MathFunction) (hlength : vs.length = f.arity)
    (h : ∀ v ∈ vs, v.IsSingle .numeric) : Reads (applyFunction f vs) := by
  obtain ⟨numbers, hnumbers, hlength', -⟩ := exists_mapM_eq_ok (Q := fun _ ↦ True) vs fun v hv ↦
    ⟨_, (h v hv).exists_readNumber.choose_spec, trivial⟩
  refine reads_bind_of_eq hnumbers ?_
  rw [← hlength'] at hlength
  match numbers, hlength with
  | [_], _ | [_, _], _ => trivial
  | [], h | _ :: _ :: _ :: _, h => cases f <;> nomatch h

end Arithmetic

/-! ### Logic and comparison -/

section Comparison

variable {a b v : Value}

theorem reads_threeValued (dominant : Bool) {vs : List Value} (h : ∀ v ∈ vs, Reads (readTruth v)) :
    Reads (threeValued dominant vs) := by
  refine (reads_mapM h).bind fun truths ↦ ?_
  split
  · trivial
  · split <;> trivial

theorem reads_countTrue (least most : Int64) {vs : List Value}
    (h : ∀ v ∈ vs, Reads (readTruth v)) : Reads (countTrue least most vs) := by
  refine (reads_mapM h).bind fun truths ↦ ?_
  dsimp only
  split
  · trivial
  · split <;> trivial

theorem reads_negate (hv : v.IsSingle (.only [.boolean])) : Reads (negate v) :=
  hv.reads_boolean.bind fun _ ↦ trivial

theorem reads_comparedText (caseSensitive : Bool) (hv : v.IsSingle (.only [.string])) :
    Reads (comparedText caseSensitive v) :=
  hv.reads_text.bind fun _ ↦ trivial

theorem reads_substringOf (caseSensitive : Bool) (ha : a.IsSingle (.only [.string]))
    (hb : b.IsSingle (.only [.string])) : Reads (substringOf caseSensitive a b) :=
  (reads_comparedText _ ha).bind fun _ ↦ (reads_comparedText _ hb).bind fun _ ↦ trivial

theorem reads_matchStrings (caseSensitive substring : Bool) (ha : a.IsSingle (.only [.string]))
    (hb : b.IsSingle (.only [.string])) : Reads (matchStrings caseSensitive substring a b) :=
  (reads_comparedText _ ha).bind fun _ ↦ (reads_comparedText _ hb).bind fun _ ↦ trivial

theorem reads_matchPattern (pattern : String) (hv : v.IsSingle (.only [.string])) :
    Reads (matchPattern pattern v) := by
  refine hv.reads_text.bind fun text ↦ ?_
  cases PatternLibrary.matchesWhole? pattern (String.ofList text) with
  | none => trivial
  | some b => trivial

theorem reads_compareNumbers (accepts : Ordering → Bool) (ha : a.IsSingle .numeric)
    (hb : b.IsSingle .numeric) : Reads (compareNumbers accepts a b) :=
  ha.reads_number.bind fun _ ↦ hb.reads_number.bind fun _ ↦ trivial

theorem reads_compareDurations (accepts : Ordering → Bool) (ha : a.IsSingle (.only [.duration]))
    (hb : b.IsSingle (.only [.duration])) : Reads (compareDurations accepts a b) :=
  ha.reads_seconds.bind fun _ ↦ hb.reads_seconds.bind fun _ ↦ trivial

theorem reads_equalNumbers (store : Store) (mode : ToleranceMode)
    (tolerances : List (Literal Float)) (includesLower includesUpper : Bool)
    (ha : a.IsSingle .numeric) (hb : b.IsSingle .numeric) :
    Reads (equalNumbers store mode tolerances includesLower includesUpper a b) := by
  refine ha.reads_float.bind fun x ↦ hb.reads_float.bind fun y ↦ ?_
  split
  · trivial
  · split
    · trivial
    · rename_i first rest
      refine (reads_literalNumber store first).bind fun t ↦ ?_
      cases rest with
      | nil => trivial
      | cons second rest => exact (reads_literalNumber store second).bind fun _ ↦ trivial

theorem reads_equalRoundedNumbers (mode : RoundingMode) (figures : Int64)
    (ha : a.IsSingle .numeric) (hb : b.IsSingle .numeric) :
    Reads (equalRoundedNumbers mode figures a b) :=
  ha.reads_float.bind fun _ ↦ hb.reads_float.bind fun _ ↦
    (reads_mapError (f := .rounding) fun _ ↦ trivial).bind fun _ ↦ trivial

theorem reads_anyInside (area : Area) {types : BaseTypes} (hv : v.HasMembers types) :
    Reads (anyInside area v) :=
  hv.reads_members.bind fun _ ↦ trivial

end Comparison

/-! ### Containers -/

section Containers

variable {a b v : Value}

theorem reads_gatherFrom : (vs : List Value) → (i : Nat) → (found : Option BaseType) →
    Reads (gatherFrom i found vs)
  | [], _, _ => trivial
  | v :: vs, i, found => by
      rw [gatherFrom]
      split
      · exact reads_gatherFrom vs (i + 1) found
      · split
        · trivial
        · exact (reads_gatherFrom vs (i + 1) _).bind fun _ ↦ trivial

theorem reads_buildContainer (cardinality : Cardinality) (times : Nat) (vs : List Value) :
    Reads (buildContainer cardinality times vs) := by
  refine (reads_gatherFrom vs 0 none).bind fun gathered ↦ ?_
  split
  · trivial
  · split
    · trivial
    · split
      · exact reads_mapError (f := .container) fun _ ↦ trivial
      · trivial

theorem reads_repeatMembers (n : Int64) (vs : List Value) : Reads (repeatMembers n vs) := by
  unfold repeatMembers
  split
  · trivial
  · exact reads_buildContainer _ _ vs

theorem reads_containerSize {signature : Signature} (h : signature.Passes v)
    (hcard : signature.cardinalities = Signature.containers) : Reads (containerSize v) := by
  cases v with
  | null | multiple | ordered => trivial
  | single | record =>
    have hk := (h.admits _ rfl).1
    rw [hcard] at hk
    simp [Signature.containers] at hk

theorem reads_memberAt (n : Int64) {types : BaseTypes} (hv : v.HasMembers types) :
    Reads (memberAt n v) := by
  rw [memberAt]
  split
  · trivial
  · exact hv.reads_members.bind fun _ ↦ trivial

theorem reads_fieldOf (name : String) {signature : Signature} (h : signature.Passes v)
    (hcard : signature.cardinalities = [.record]) (hstrict : signature.nullPropagates) :
    Reads (fieldOf name v) := by
  obtain ⟨k, hk, hv⟩ := h.exists_cardinality (h.notNull hstrict)
  rw [hcard, List.mem_singleton] at hk
  subst hk
  cases v with
  | record fields => trivial
  | _ => cases hv

theorem reads_readMemberAndContainer (a b : Value) : Reads (readMemberAndContainer a b) := by
  unfold readMemberAndContainer
  split
  · split
    · trivial
    · trivial
  · trivial
  · trivial

theorem reads_memberOf (a b : Value) : Reads (memberOf a b) :=
  (reads_readMemberAndContainer a b).bind fun _ ↦ trivial

theorem reads_deleteFrom (a b : Value) : Reads (deleteFrom a b) :=
  (reads_readMemberAndContainer a b).bind fun _ ↦ reads_mapError (f := .container) fun _ ↦ trivial

theorem reads_checkSameCardinality (a b : Value) : Reads (checkSameCardinality a b) := by
  unfold checkSameCardinality
  split
  · split
    · trivial
    · trivial
  · trivial

theorem reads_checkSameBaseType (a b : Value) : Reads (checkSameBaseType a b) := by
  unfold checkSameBaseType
  split
  · split
    · trivial
    · trivial
  · trivial

theorem reads_sameValue (a b : Value) : Reads (sameValue a b) :=
  (reads_checkSameCardinality a b).bind fun _ ↦
    (reads_checkSameBaseType a b).bind fun _ ↦ trivial

/-- Containers of different cardinalities are a fault of `containsPart` before their members are
read. -/
theorem reads_containsPart (ha : ∃ c, a = .multiple c ∨ a = .ordered c)
    (hb : ∃ c, b = .multiple c ∨ b = .ordered c) : Reads (containsPart a b) := by
  obtain ⟨c, rfl | rfl⟩ := ha <;> obtain ⟨d, rfl | rfl⟩ := hb
  · exact (reads_checkSameCardinality ..).bind fun _ ↦
      (reads_checkSameBaseType ..).bind fun _ ↦ trivial
  · trivial
  · trivial
  · exact (reads_checkSameCardinality ..).bind fun _ ↦
      (reads_checkSameBaseType ..).bind fun _ ↦ trivial

end Containers

/-! ### All operators -/

theorem ne_nil_of_accepts {vs : List Value} (h : (Arity.atLeast 1).accepts vs.length) :
    vs ≠ [] := by
  rintro rfl
  cases h

section Operands

variable {signature : Signature} {vs : List Value} (hpass : ∀ v ∈ vs, signature.Passes v)

include hpass

theorem exists_operand (harity : (Arity.exactly 1).accepts vs.length) :
    ∃ v, vs = [v] ∧ signature.Passes v := by
  obtain ⟨v, rfl⟩ := List.length_eq_one_iff.1 (beq_iff_eq.1 harity)
  exact ⟨v, rfl, hpass v (.head _)⟩

theorem exists_operands (harity : (Arity.exactly 2).accepts vs.length) :
    ∃ a b, vs = [a, b] ∧ signature.Passes a ∧ signature.Passes b := by
  obtain ⟨a, b, rfl⟩ := List.length_eq_two.1 (beq_iff_eq.1 harity)
  exact ⟨a, b, rfl, hpass a (.head _), hpass b (.tail _ (.head _))⟩

variable (hstrict : signature.nullPropagates) (hcard : signature.cardinalities = [.single])

include hstrict hcard

theorem exists_single (harity : (Arity.exactly 1).accepts vs.length) :
    ∃ v, vs = [v] ∧ v.IsSingle signature.baseTypes := by
  obtain ⟨v, rfl, hv⟩ := exists_operand hpass harity
  exact ⟨v, rfl, hv.isSingle hcard hstrict⟩

theorem exists_singles (harity : (Arity.exactly 2).accepts vs.length) :
    ∃ a b, vs = [a, b] ∧ a.IsSingle signature.baseTypes ∧ b.IsSingle signature.baseTypes := by
  obtain ⟨a, b, rfl, ha, hb⟩ := exists_operands hpass harity
  exact ⟨a, b, rfl, ha.isSingle hcard hstrict, hb.isSingle hcard hstrict⟩

end Operands

section Combine

variable {store : Store} {op : Operator} {vs : List Value}
  (harity : op.signature.arity.accepts vs.length) (hpass : ∀ v ∈ vs, op.signature.Passes v)

include harity hpass

theorem reads_combine_containers (h : op.Belongs .containers) : Reads (combine store op vs) := by
  cases h with
  | multiple | ordered => exact reads_buildContainer _ 1 vs
  | repeated n => exact (reads_literalInteger store n).bind fun n ↦ reads_repeatMembers n vs
  | record fields => trivial
  | containerSize =>
    obtain ⟨v, rfl, hv⟩ := exists_operand hpass harity
    exact reads_containerSize hv rfl
  | isNull =>
    obtain ⟨v, rfl, -⟩ := exists_operand hpass harity
    trivial
  | index n =>
    obtain ⟨v, rfl, hv⟩ := exists_operand hpass harity
    exact (reads_literalInteger store n).bind fun n ↦ reads_memberAt n (hv.hasMembers rfl rfl)
  | fieldValue field =>
    obtain ⟨v, rfl, hv⟩ := exists_operand hpass harity
    exact reads_fieldOf field hv rfl rfl
  | member =>
    obtain ⟨a, b, rfl, -⟩ := exists_operands hpass harity
    exact reads_memberOf a b
  | delete =>
    obtain ⟨a, b, rfl, -⟩ := exists_operands hpass harity
    exact reads_deleteFrom a b
  | contains =>
    obtain ⟨a, b, rfl, ha, hb⟩ := exists_operands hpass harity
    exact reads_containsPart (ha.exists_container rfl rfl) (hb.exists_container rfl rfl)

theorem reads_combine_logic (h : op.Belongs .logic) : Reads (combine store op vs) := by
  cases h with
  | not =>
    obtain ⟨v, rfl, hv⟩ := exists_single hpass rfl rfl harity
    exact reads_negate hv
  | and | or => exact reads_threeValued _ fun v hv ↦ reads_readTruth (hpass v hv) rfl rfl
  | anyN least most =>
    exact (reads_literalInteger store least).bind fun least ↦
      (reads_literalInteger store most).bind fun most ↦
        reads_countTrue least most fun v hv ↦ reads_readTruth (hpass v hv) rfl rfl

theorem reads_combine_comparison (h : op.Belongs .comparison) : Reads (combine store op vs) := by
  cases h with
  | same =>
    obtain ⟨a, b, rfl, -⟩ := exists_operands hpass harity
    exact reads_sameValue a b
  | substring caseSensitive =>
    obtain ⟨a, b, rfl, ha, hb⟩ := exists_singles hpass rfl rfl harity
    exact reads_substringOf caseSensitive ha hb
  | stringMatch caseSensitive substring =>
    obtain ⟨a, b, rfl, ha, hb⟩ := exists_singles hpass rfl rfl harity
    exact reads_matchStrings caseSensitive substring ha hb
  | patternMatch pattern =>
    obtain ⟨v, rfl, hv⟩ := exists_single hpass rfl rfl harity
    exact reads_matchPattern pattern hv
  | equal mode tolerances includesLower includesUpper =>
    obtain ⟨a, b, rfl, ha, hb⟩ := exists_singles hpass rfl rfl harity
    exact reads_equalNumbers store mode tolerances includesLower includesUpper ha hb
  | equalRounded mode figures =>
    obtain ⟨a, b, rfl, ha, hb⟩ := exists_singles hpass rfl rfl harity
    exact (reads_literalInteger store figures).bind fun figures ↦
      reads_equalRoundedNumbers mode figures ha hb
  | inside area =>
    obtain ⟨v, rfl, hv⟩ := exists_operand hpass harity
    exact reads_anyInside area (hv.hasMembers rfl rfl)
  | lt | gt | lte | gte =>
    obtain ⟨a, b, rfl, ha, hb⟩ := exists_singles hpass rfl rfl harity
    exact reads_compareNumbers _ ha hb
  | durationLT | durationGTE =>
    obtain ⟨a, b, rfl, ha, hb⟩ := exists_singles hpass rfl rfl harity
    exact reads_compareDurations _ ha hb

theorem reads_combine_arithmetic (h : op.Belongs .arithmetic) : Reads (combine store op vs) := by
  cases h with
  | sum | product => exact reads_foldNumbers _ _ _ fun v hv ↦ (hpass v hv).isSingle rfl rfl
  | max | min =>
    exact reads_extremum _ (ne_nil_of_accepts harity) fun v hv ↦ (hpass v hv).hasMembers rfl rfl
  | gcd | lcm =>
    exact reads_foldIntegers _ (ne_nil_of_accepts harity) fun v hv ↦ (hpass v hv).hasMembers rfl rfl
  | math f =>
    exact reads_applyFunction f (beq_iff_eq.1 harity) fun v hv ↦ (hpass v hv).isSingle rfl rfl
  | subtract =>
    obtain ⟨a, b, rfl, ha, hb⟩ := exists_singles hpass rfl rfl harity
    exact reads_subtract ha hb
  | divide =>
    obtain ⟨a, b, rfl, ha, hb⟩ := exists_singles hpass rfl rfl harity
    exact reads_divide ha hb
  | power =>
    obtain ⟨a, b, rfl, ha, hb⟩ := exists_singles hpass rfl rfl harity
    exact reads_power ha hb
  | integerDivide | integerModulus =>
    obtain ⟨a, b, rfl, ha, hb⟩ := exists_singles hpass rfl rfl harity
    exact reads_onIntegers _ ha hb
  | truncate | round =>
    obtain ⟨v, rfl, hv⟩ := exists_single hpass rfl rfl harity
    exact reads_toWhole _ hv
  | integerToFloat =>
    obtain ⟨v, rfl, hv⟩ := exists_single hpass rfl rfl harity
    exact hv.reads_floatValue
  | roundTo mode figures =>
    obtain ⟨v, rfl, hv⟩ := exists_single hpass rfl rfl harity
    exact (reads_literalInteger store figures).bind fun figures ↦ reads_roundNumber mode figures hv
  | statistic statistic =>
    obtain ⟨v, rfl, hv⟩ := exists_operand hpass harity
    exact reads_statisticOf statistic (hv.hasMembers rfl rfl)

end Combine

/-- An operator that draws nothing finds no operand `.unreadable`, if there are as many as its
signature says and all of them pass. -/
theorem reads_combine (store : Store) {op : Operator} {vs : List Value} (hop : op ≠ .random)
    (harity : op.signature.arity.accepts vs.length) (hpass : ∀ v ∈ vs, op.signature.Passes v) :
    Reads (combine store op vs) := by
  obtain ⟨family, h⟩ := Operator.exists_belongs hop
  cases family with
  | containers => exact reads_combine_containers harity hpass h
  | logic => exact reads_combine_logic harity hpass h
  | comparison => exact reads_combine_comparison harity hpass h
  | arithmetic => exact reads_combine_arithmetic harity hpass h

end Evaluation

end AssessmentItem
