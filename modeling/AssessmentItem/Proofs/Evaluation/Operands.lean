import AssessmentItem.Evaluation.Operand
import AssessmentItem.Proofs.Evaluation.ResultTypes

/-!
# Reading operands

An operand that cannot be read as what it should be is a fault, but never one that refers to what
is not there.  Only a literal operand that names a variable can have a fault of that sort.  What is
read of operands has their base types, so that arithmetic on numbers that are read tells the type
that the operands promise.

## Main definitions

* `Fault.IsReference` : the faults that refer to what is not there or has no such part.
* `Evaluation.Inward` : the other faults.
* `Evaluation.Blames` : a fault of the first sort is due to a name of a list.

## Main results

* `Evaluation.gives_mapM_readNumber`, `Evaluation.gives_mapM_numberOf?` : the base types of the
  numbers that are read.
* `Evaluation.gives_literalInteger`, `Evaluation.gives_literalNumber` : a literal operand blames
  the variable that it names.
-/

namespace AssessmentItem

/-- Whether a fault refers to a node or a variable that is not there, or to the correct value of a
variable that has none. -/
def Fault.IsReference : Fault → Prop
  | .missingNode | .unknownVariable _ | .noCorrectResponse .. => True
  | _ => False

namespace Evaluation

/-- The fault does not refer to anything. -/
def Inward (fault : Fault) : Prop := ¬fault.IsReference

/-- A `fault` that refers to what is not there is due to one of the `names`, which is not that of a
variable. -/
def Blames (store : Store) (names : List String) (fault : Fault) : Prop :=
  fault.IsReference → ∃ name ∈ names, store.value? name = none

/-- The base type of a number. -/
def Number.baseType : Number → BaseType
  | integer _ => .integer
  | float _ => .float

variable {α β : Type} {Q : α → Prop}

theorem Inward.blames {fault : Fault} (h : Inward fault) (store : Store) (names : List String) :
    Blames store names fault :=
  fun hr ↦ absurd hr h

theorem Blames.of_subset {store : Store} {names names' : List String} {fault : Fault}
    (h : Blames store names fault) (hsub : names ⊆ names') : Blames store names' fault := by
  intro hr
  obtain ⟨name, hname, hnone⟩ := h hr
  exact ⟨name, hsub hname, hnone⟩

theorem gives_blames {r : Except Fault α} (store : Store) (names : List String)
    (h : Gives r Q Inward) : Gives r Q (Blames store names) :=
  h.mono (fun _ hQ ↦ hQ) fun _ hE ↦ hE.blames store names

/-! ### Reading operands -/

@[simp] theorem inward_unreadable : Inward .unreadable := fun h ↦ h

theorem gives_orUnreadable (o : Option α) (hQ : ∀ a, Q a) : Gives (orUnreadable o) Q Inward := by
  cases o with
  | none => exact inward_unreadable
  | some a => exact hQ a

theorem gives_readNumber (v : Value) {Q : Number → Prop} (hQ : ∀ x, Q x) :
    Gives (readNumber v) Q Inward :=
  gives_orUnreadable _ hQ

/-- The number that `readNumber` reads of a single value has its base type. -/
theorem gives_readNumber_single (v : Value) {Q : Number → Prop}
    (hQ : ∀ s x, v = .single s → s.baseType = x.baseType → Q x) :
    Gives (readNumber v) Q Inward := by
  unfold readNumber
  cases v with
  | single s =>
    cases s with
    | integer n => exact hQ _ _ rfl rfl
    | float x => exact hQ _ _ rfl rfl
    | _ => exact inward_unreadable
  | _ => exact inward_unreadable

theorem gives_readFloat (v : Value) {Q : Float → Prop} (hQ : ∀ x, Q x) :
    Gives (readFloat v) Q Inward := by
  rw [readFloat, gives_bind]
  exact gives_readNumber v fun x ↦ hQ x.toFloat

theorem gives_readInteger (v : Value) {Q : Int64 → Prop} (hQ : ∀ n, Q n) :
    Gives (readInteger v) Q Inward :=
  gives_orUnreadable _ hQ

theorem gives_readBoolean (v : Value) {Q : Bool → Prop} (hQ : ∀ b, Q b) :
    Gives (readBoolean v) Q Inward :=
  gives_orUnreadable _ hQ

theorem gives_readTruth (v : Value) {Q : Option Bool → Prop} (hQ : ∀ b, Q b) :
    Gives (readTruth v) Q Inward := by
  unfold readTruth
  split
  · exact hQ none
  · rw [gives_map]
    exact gives_readBoolean v fun b ↦ hQ (some b)

theorem gives_readText (v : Value) {Q : List Char → Prop} (hQ : ∀ cs, Q cs) :
    Gives (readText v) Q Inward := by
  rw [readText, gives_bind]
  exact gives_orUnreadable _ fun s ↦ hQ s.toList

theorem gives_readSeconds (v : Value) {Q : Float → Prop} (hQ : ∀ x, Q x) :
    Gives (readSeconds v) Q Inward := by
  unfold readSeconds
  split
  · exact hQ _
  · exact inward_unreadable

/-- The scalars that `readMembers` reads of a value have its base type. -/
theorem gives_readMembers (v : Value) {Q : List Scalar → Prop}
    (hQ : (∀ s ∈ v.members, v.baseType? = some s.baseType) → Q v.members) :
    Gives (readMembers v) Q Inward := by
  cases v with
  | null | record fields => exact inward_unreadable
  | single t | multiple c | ordered c =>
    exact hQ fun _ ↦ Value.baseType?_of_mem_members (by simp [Value.cardinality?])

/-- A list is read member by member by `f`, which fails with faults that are `Inward`. -/
theorem gives_mapM_read {f : β → Except Fault α} (hf : ∀ b, Gives (f b) (fun _ ↦ True) Inward)
    (l : List β) {Q : List α → Prop} (hQ : ∀ as, Q as) : Gives (l.mapM f) Q Inward :=
  (gives_mapM l fun b _ ↦ hf b).mono (fun as _ ↦ hQ as) fun _ h ↦ h

theorem gives_readAllMembers (vs : List Value) {Q : List Scalar → Prop}
    (hQ : Q (vs.flatMap Value.members)) : Gives (readAllMembers vs) Q Inward := by
  rw [readAllMembers, gives_bind]
  have hmembers := gives_mapM_map (φ := id) (ψ := Value.members) (E := Inward) vs fun v _ ↦
    gives_readMembers v fun _ ↦ rfl
  refine hmembers.mono (fun lists h ↦ ?_) fun _ h ↦ h
  rw [List.map_id] at h
  rw [gives_pure, h, ← List.flatMap_def]
  exact hQ

/-! ### Numbers -/

theorem isSome_mapM (f : α → Option β) :
    (l : List α) → (l.mapM f).isSome = l.all fun a ↦ (f a).isSome
  | [] => rfl
  | a :: l => by
      rw [List.all_cons, ← isSome_mapM f l, List.mapM_cons]
      cases f a with
      | none => rfl
      | some b => cases l.mapM f <;> rfl

/-- The `promotedType` is `.integer` if all numbers are integers. -/
theorem promotedType_numbers (numbers : List Number) :
    promotedType (numbers.map Number.baseType) =
      if (numbers.mapM Number.integer?).isSome then .integer else .float := by
  have hsame : (· == BaseType.integer) ∘ Number.baseType = fun x ↦ x.integer?.isSome := by
    funext x
    cases x <;> rfl
  rw [promotedType, List.all_map, isSome_mapM, hsame]

/-- The numbers of single values have the base types that `memberTypes` lists. -/
theorem gives_mapM_readNumber (vs : List Value) {Q : List Number → Prop}
    (hQ : ∀ numbers, memberTypes vs = numbers.map Number.baseType → Q numbers) :
    Gives (vs.mapM readNumber) Q Inward := by
  have hread := gives_mapM_map (f := readNumber) (φ := fun x ↦ [x.baseType])
    (ψ := fun v ↦ v.members.map Scalar.baseType) (E := Inward) vs fun v _ ↦
      gives_readNumber_single v fun s x hs hx ↦ by rw [hs, ← hx]; rfl
  refine hread.mono (fun numbers h ↦ hQ numbers ?_) fun _ h ↦ h
  rw [memberTypes, List.flatMap_def, ← h, ← List.flatMap_def, List.map_eq_flatMap]

/-- The numbers of scalars have the `baseType` of the scalars. -/
theorem gives_mapM_numberOf? (members : List Scalar) {Q : List Number → Prop}
    (hQ : ∀ numbers, members.map Scalar.baseType = numbers.map Number.baseType → Q numbers) :
    Gives (members.mapM fun s ↦ orUnreadable (numberOf? s)) Q Inward := by
  have hread := gives_mapM_map (f := fun s ↦ orUnreadable (numberOf? s)) (φ := Number.baseType)
    (ψ := Scalar.baseType) (E := Inward) members fun s _ ↦ by
      cases s <;> first | rfl | exact inward_unreadable
  exact hread.mono (fun numbers h ↦ hQ numbers h.symm) fun _ h ↦ h

theorem variable?_toList_subset {x : Literal α} {l : List (Literal α)} (h : x ∈ l) :
    x.variable?.toList ⊆ l.filterMap Literal.variable? := by
  intro name hname
  exact List.mem_filterMap.2 ⟨x, h, Option.mem_toList.1 hname⟩

/-- A literal operand that `literalInteger` cannot read because of a reference names a variable that
is not there. -/
theorem gives_literalInteger (store : Store) (n : Literal Int64) {Q : Int64 → Prop}
    (hQ : ∀ n, Q n) :
    Gives (literalInteger store n) Q (Blames store n.variable?.toList) := by
  cases n with
  | given n => exact hQ n
  | named name =>
    rw [literalInteger]
    split
    · rename_i hnone
      exact fun _ ↦ ⟨name, by simp [ Literal.variable?], hnone⟩
    · split
      · exact hQ _
      · exact fun h ↦ h.elim

theorem gives_literalNumber (store : Store) (x : Literal Float) {Q : Float → Prop}
    (hQ : ∀ x, Q x) : Gives (literalNumber store x) Q (Blames store x.variable?.toList) := by
  cases x with
  | given x => exact hQ x
  | named name =>
    rw [literalNumber]
    split
    · rename_i hnone
      exact fun _ ↦ ⟨name, by simp [ Literal.variable?], hnone⟩
    · split
      · exact hQ _
      · exact fun h ↦ h.elim

theorem gives_literalInteger_of_mem (store : Store) {n : Literal Int64}
    {l : List (Literal Int64)} (hn : n ∈ l) {Q : Int64 → Prop} (hQ : ∀ n, Q n) :
    Gives (literalInteger store n) Q (Blames store (l.filterMap Literal.variable?)) :=
  (gives_literalInteger store n hQ).mono (fun _ h ↦ h) fun _ h ↦
    h.of_subset (variable?_toList_subset hn)

theorem gives_literalNumber_of_mem (store : Store) {x : Literal Float}
    {l : List (Literal Float)} (hx : x ∈ l) {Q : Float → Prop} (hQ : ∀ x, Q x) :
    Gives (literalNumber store x) Q (Blames store (l.filterMap Literal.variable?)) :=
  (gives_literalNumber store x hQ).mono (fun _ h ↦ h) fun _ h ↦
    h.of_subset (variable?_toList_subset hx)

end Evaluation

end AssessmentItem
