import Mathlib.Data.List.Induction
import Mathlib.Data.List.Nodup
import Mathlib.Data.List.Perm.Basic
import AssessmentItem.Proofs.Store.Slots

/-!
# Which declarations make an item

A document lists the declarations of an item, and the item declares besides the variables that every
item declares.  A listed declaration offends if it declares such a variable with another type, or if
it declares any other variable that is declared before it.  An item comes of a list exactly if none
offends, and else the first that does is the error.

A variable that every item declares may be listed any number of times: nothing looks for an earlier
declaration of it, and the last one counts.  Where no list does this, the items are those of lists
that declare every variable once.

## Main definitions

* `ordinary`, `repeated` : the listed declarations of other variables, and of those of every item.
* `Offends` : a declaration that cannot follow those before it, and the error.
* `DeclarationLaws` : when a list makes an item, which one, and the error if it does not.

## Main results

* `declare_eq_error_iff` : the error of one more declaration.
* `exists_declareAll_iff`, `declareAll_eq_error_iff` : the item or the error of a list.
* `declareAll_eq` : the declarations of an item in their order.
* `declarationLaws` : the laws hold for every list.
-/

namespace AssessmentItem

variable {d : VariableDeclaration} {ds l l' before : List VariableDeclaration}
  {error : DefinitionError}

/-! ### Listed declarations -/

/-- Whether `builtIns` declares the variable of a declaration. -/
def VariableDeclaration.isBuiltIn (d : VariableDeclaration) : Bool :=
  (findDeclaration? builtIns d.identifier).isSome

theorem VariableDeclaration.isBuiltIn_iff :
    d.isBuiltIn ↔ ∃ b : BuiltIn, b.identifier = d.identifier := by
  constructor
  · intro h
    obtain ⟨e, he⟩ := Option.isSome_iff_exists.1 h
    obtain ⟨b, hid, -⟩ := exists_builtIn he
    exact ⟨b, hid⟩
  · rintro ⟨b, hid⟩
    rw [isBuiltIn, ← hid, findDeclaration?_builtIns]
    rfl

/-- The declarations of variables that are not built in. -/
def ordinary (ds : List VariableDeclaration) : List VariableDeclaration :=
  ds.filter fun d ↦ !d.isBuiltIn

/-- The declarations of variables that `isBuiltIn`. -/
def repeated (ds : List VariableDeclaration) : List VariableDeclaration :=
  ds.filter fun d ↦ d.isBuiltIn

theorem ordinary_snoc (ds : List VariableDeclaration) (d : VariableDeclaration) :
    ordinary (ds ++ [d]) = if d.isBuiltIn then ordinary ds else ordinary ds ++ [d] := by
  rw [ordinary, List.filter_append, ← ordinary]
  cases h : d.isBuiltIn <;> simp [h]

/-- A declaration that is not built in has an identifier that is listed exactly if it is among the
`ordinary` ones. -/
theorem mem_map_ordinary_iff (h : d.isBuiltIn = false) :
    d.identifier ∈ (ordinary ds).map (·.identifier) ↔ d.identifier ∈ ds.map (·.identifier) := by
  rw [List.mem_map, List.mem_map]
  constructor
  · rintro ⟨e, he, hid⟩
    exact ⟨e, (List.mem_filter.1 he).1, hid⟩
  · rintro ⟨e, he, hid⟩
    refine ⟨e, List.mem_filter.2 ⟨he, ?_⟩, hid⟩
    rw [VariableDeclaration.isBuiltIn, hid, ← VariableDeclaration.isBuiltIn, h]
    rfl

/-- Every variable is listed once if the `repeated` ones are, and so are the `ordinary` ones. -/
theorem nodup_map_identifier_iff :
    (ds.map (·.identifier)).Nodup ↔
      ((repeated ds).map (·.identifier)).Nodup ∧ ((ordinary ds).map (·.identifier)).Nodup := by
  have hperm := (List.filter_append_perm (fun d ↦ d.isBuiltIn) ds).map (·.identifier)
  rw [← hperm.nodup_iff, List.map_append, ← repeated, ← ordinary, List.nodup_append]
  refine ⟨fun h ↦ ⟨h.1, h.2.1⟩, fun h ↦ ⟨h.1, h.2, fun x hx y hy hxy ↦ ?_⟩⟩
  obtain ⟨d, hd, rfl⟩ := List.mem_map.1 hx
  obtain ⟨e, he, rfl⟩ := List.mem_map.1 hy
  have hd := (List.mem_filter.1 hd).2
  have he := (List.mem_filter.1 he).2
  rw [VariableDeclaration.isBuiltIn, hxy, ← VariableDeclaration.isBuiltIn] at hd
  rw [hd] at he
  cases he

/-! ### Offending declarations -/

/-- The declaration `d` cannot follow those in `before`, and the error names it. -/
inductive Offends (before : List VariableDeclaration) (d : VariableDeclaration) :
    DefinitionError → Prop
  | reserved (b : BuiltIn) (same : b.identifier = d.identifier)
      (otherType : ¬b.declaration.sameType d) :
      Offends before d (.reserved d.identifier b.declaration.kind)
  | duplicate (ordinary : ∀ b : BuiltIn, b.identifier ≠ d.identifier)
      (again : d.identifier ∈ before.map (·.identifier)) :
      Offends before d (.duplicate d.identifier)

/-- No declaration of a list `Offends`. -/
def Inoffensive (ds : List VariableDeclaration) : Prop :=
  ∀ before d after error, ds = before ++ d :: after → ¬Offends before d error

theorem inoffensive_nil : Inoffensive [] := by
  intro before d after error h
  simp at h

theorem inoffensive_snoc_iff :
    Inoffensive (ds ++ [d]) ↔ Inoffensive ds ∧ ∀ error, ¬Offends ds d error := by
  constructor
  · intro h
    refine ⟨fun before e after error hds ↦ h before e (after ++ [d]) error ?_,
      fun error ↦ h ds d [] error rfl⟩
    rw [hds, List.append_assoc, List.cons_append]
  · rintro ⟨hds, hd⟩ before e after error heq
    rcases List.eq_nil_or_concat after with rfl | ⟨rest, last, rfl⟩
    · obtain ⟨rfl, he⟩ := List.append_inj' heq rfl
      obtain rfl : d = e := List.singleton_injective he
      exact hd error
    · rw [List.concat_eq_append, ← List.cons_append, ← List.append_assoc] at heq
      exact hds before e rest error (List.append_inj' heq rfl).1

/-! ### The declarations of an item -/

theorem declareAll_snoc (ds : List VariableDeclaration) (d : VariableDeclaration) :
    declareAll (ds ++ [d]) = declareAll ds >>= (declare · d) := by
  rw [declareAll, List.foldlM_append, ← declareAll]
  exact congrArg (declareAll ds >>= ·) (funext fun l ↦ bind_pure (declare l d))

theorem BuiltIn.identifier_declaration (b : BuiltIn) :
    b.declaration.identifier = b.identifier := by
  cases b <;> rfl

/-- The variables of `builtIns` come first, each with its last listed declaration or, if it has
none, with the one that every item has. The others follow in the listed order. -/
theorem declareAll_eq (h : declareAll ds = .ok l) :
    l = builtIns.map (fun b ↦ (findDeclaration? ds.reverse b.identifier).getD b) ++
      ordinary ds := by
  refine declareAll_induction_prefix h (P := fun made l ↦
    l = builtIns.map (fun b ↦ (findDeclaration? made.reverse b.identifier).getD b) ++
      ordinary made) rfl fun made l l' d _ _ hdeclare ih ↦ ?_
  have hfind (x : String) : findDeclaration? (made ++ [d]).reverse x =
      if d.identifier = x then some d else findDeclaration? made.reverse x := by
    by_cases hx : d.identifier = x <;> simp [findDeclaration?, hx]
  subst ih
  rw [ordinary_snoc]
  rcases declare_eq_ok_iff.1 hdeclare with ⟨b, hid, -, rfl⟩ | ⟨hne, -, rfl⟩
  · rw [if_pos (VariableDeclaration.isBuiltIn_iff.2 ⟨b, hid⟩), List.map_append, List.map_map]
    refine congr_arg₂ _ (List.map_congr_left fun b' _ ↦ ?_) ?_
    · have hkept : ((findDeclaration? made.reverse b'.identifier).getD b').identifier =
          b'.identifier := by
        cases hfound : findDeclaration? made.reverse b'.identifier with
        | none => rfl
        | some e => exact identifier_of_findDeclaration? hfound
      rw [Function.comp_apply, hkept, hfind]
      by_cases hsame : b'.identifier = d.identifier
      · rw [if_pos hsame, if_pos hsame.symm, Option.getD_some]
      · rw [if_neg hsame, if_neg (Ne.symm hsame)]
    · refine (List.map_congr_left fun e he ↦ if_neg fun heq ↦ ?_).trans (List.map_id _)
      have hordinary := (List.mem_filter.1 he).2
      rw [VariableDeclaration.isBuiltIn, heq, ← hid, findDeclaration?_builtIns] at hordinary
      cases hordinary
  · have hd : ¬d.isBuiltIn := fun hd ↦ by
      obtain ⟨b, hid⟩ := VariableDeclaration.isBuiltIn_iff.1 hd
      exact hne b hid
    rw [if_neg hd, List.append_assoc]
    refine congrArg (· ++ _) (List.map_congr_left fun b' hb' ↦ ?_)
    obtain ⟨b, -, rfl⟩ := List.mem_map.1 hb'
    rw [hfind, b.identifier_declaration, if_neg (Ne.symm (hne b))]

theorem map_identifier_declareAll (h : declareAll ds = .ok l) :
    l.map (·.identifier) =
      builtIns.map (·.identifier) ++ (ordinary ds).map (·.identifier) := by
  rw [declareAll_eq h, List.map_append, List.map_map]
  refine congrArg (· ++ _) (List.map_congr_left fun b _ ↦ ?_)
  rw [Function.comp_apply]
  cases hfound : findDeclaration? ds.reverse b.identifier with
  | none => rfl
  | some e => exact identifier_of_findDeclaration? hfound

/-- An identifier that is not built in is in the item if it is listed. -/
theorem mem_map_declareAll_iff (h : declareAll ds = .ok l)
    (hd : ∀ b : BuiltIn, b.identifier ≠ d.identifier) :
    d.identifier ∈ l.map (·.identifier) ↔ d.identifier ∈ ds.map (·.identifier) := by
  have hnot : d.isBuiltIn = false := by
    rw [← Bool.not_eq_true, VariableDeclaration.isBuiltIn_iff]
    exact fun ⟨b, hid⟩ ↦ hd b hid
  rw [map_identifier_declareAll h, List.mem_append, mem_map_ordinary_iff hnot,
    ← isSome_findDeclaration?_iff, ← VariableDeclaration.isBuiltIn, hnot]
  simp

/-- The next `declare` is an error exactly if the declaration `Offends`. -/
theorem declare_eq_error_iff (h : declareAll ds = .ok l) :
    declare l d = .error error ↔ Offends ds d error := by
  rw [declare]
  cases hb : findDeclaration? builtIns d.identifier with
  | some builtIn =>
    obtain ⟨b, hid, rfl⟩ := exists_builtIn hb
    dsimp only
    by_cases hsame : b.declaration.sameType d
    · rw [if_pos hsame]
      refine ⟨(by rintro ⟨⟩), fun hoffends ↦ ?_⟩
      cases hoffends with
      | reserved b' hid' hother =>
        rw [← hid', findDeclaration?_builtIns] at hb
        exact absurd (Option.some.inj hb ▸ hsame) hother
      | duplicate hordinary _ => exact absurd hid (hordinary b)
    · rw [if_neg hsame]
      constructor
      · rintro ⟨⟩
        exact .reserved b hid hsame
      · intro hoffends
        cases hoffends with
        | reserved b' hid' hother =>
          rw [← hid', findDeclaration?_builtIns] at hb
          rw [Option.some.inj hb]
        | duplicate hordinary _ => exact absurd hid (hordinary b)
  | none =>
    have hordinary : ∀ b : BuiltIn, b.identifier ≠ d.identifier := by
      intro b hid
      rw [← hid, findDeclaration?_builtIns] at hb
      cases hb
    simp only [isSome_findDeclaration?_iff, mem_map_declareAll_iff h hordinary]
    by_cases hmem : d.identifier ∈ ds.map (·.identifier)
    · rw [if_pos hmem]
      constructor
      · rintro ⟨⟩
        exact .duplicate hordinary hmem
      · intro hoffends
        cases hoffends with
        | reserved b hid _ => exact absurd hid (hordinary b)
        | duplicate => rfl
    · rw [if_neg hmem]
      refine ⟨(by rintro ⟨⟩), fun hoffends ↦ ?_⟩
      cases hoffends with
      | reserved b hid _ => exact absurd hid (hordinary b)
      | duplicate _ hagain => exact absurd hagain hmem

/-- With `declareAll` a list makes an item exactly if it is `Inoffensive`. -/
theorem exists_declareAll_iff_inoffensive : (∃ l, declareAll ds = .ok l) ↔ Inoffensive ds := by
  induction ds using List.reverseRecOn with
  | nil => exact ⟨fun _ ↦ inoffensive_nil, fun _ ↦ ⟨builtIns, rfl⟩⟩
  | append_singleton ds d ih =>
    rw [inoffensive_snoc_iff, ← ih, declareAll_snoc]
    cases hds : declareAll ds with
    | error e => exact ⟨fun ⟨_, h⟩ ↦ (nomatch h), fun ⟨⟨_, h⟩, _⟩ ↦ (nomatch h)⟩
    | ok l =>
      change (∃ l', declare l d = .ok l') ↔ _
      simp only [← declare_eq_error_iff hds]
      cases declare l d with
      | error e => exact ⟨fun ⟨_, h⟩ ↦ (nomatch h), fun ⟨_, h⟩ ↦ absurd rfl (h e)⟩
      | ok l' => exact ⟨fun _ ↦ ⟨⟨l, rfl⟩, nofun⟩, fun _ ↦ ⟨l', rfl⟩⟩

/-- A list that makes no item has a first declaration that `Offends`, and this is the error. -/
theorem declareAll_eq_error_iff :
    declareAll ds = .error error ↔
      ∃ before d after, ds = before ++ d :: after ∧ Inoffensive before ∧
        Offends before d error := by
  constructor
  · intro h
    induction ds using List.reverseRecOn with
    | nil => cases h
    | append_singleton ds d ih =>
      rw [declareAll_snoc] at h
      cases hds : declareAll ds with
      | error e =>
        rw [hds] at h
        cases h
        obtain ⟨before, e, after, rfl, hbefore, hoffends⟩ := ih hds
        exact ⟨before, e, after ++ [d], by simp, hbefore, hoffends⟩
      | ok l =>
        rw [hds] at h
        exact ⟨ds, d, [], rfl, exists_declareAll_iff_inoffensive.1 ⟨l, hds⟩,
          (declare_eq_error_iff hds).1 h⟩
  · rintro ⟨before, d, after, rfl, hbefore, hoffends⟩
    obtain ⟨l, hl⟩ := exists_declareAll_iff_inoffensive.2 hbefore
    have hd := (declare_eq_error_iff hl).2 hoffends
    rw [declareAll] at hl
    rw [declareAll, List.foldlM_append, hl]
    change List.foldlM declare l (d :: after) = _
    rw [List.foldlM_cons, hd]
    rfl

/-- A list makes an item exactly if it declares the variables of `builtIns` with their types, and
every other variable once. -/
theorem exists_declareAll_iff :
    (∃ l, declareAll ds = .ok l) ↔
      (∀ d ∈ ds, ∀ b : BuiltIn, b.identifier = d.identifier → b.declaration.sameType d) ∧
        ((ordinary ds).map (·.identifier)).Nodup := by
  rw [exists_declareAll_iff_inoffensive]
  induction ds using List.reverseRecOn with
  | nil => exact ⟨fun _ ↦ ⟨by simp, List.nodup_nil⟩, fun _ ↦ inoffensive_nil⟩
  | append_singleton ds d ih =>
    rw [inoffensive_snoc_iff, ih, ordinary_snoc]
    simp only [List.forall_mem_append, List.forall_mem_singleton]
    by_cases hd : d.isBuiltIn
    · obtain ⟨b, hid⟩ := VariableDeclaration.isBuiltIn_iff.1 hd
      rw [if_pos hd]
      constructor
      · rintro ⟨⟨htypes, hnodup⟩, hoffends⟩
        refine ⟨⟨htypes, fun b hid ↦ ?_⟩, hnodup⟩
        by_contra hother
        exact hoffends _ (.reserved b hid hother)
      · rintro ⟨⟨htypes, htype⟩, hnodup⟩
        refine ⟨⟨htypes, hnodup⟩, fun error hoffends ↦ ?_⟩
        cases hoffends with
        | reserved b hid hother => exact hother (htype b hid)
        | duplicate hordinary _ => exact hordinary b hid
    · have hordinary : ∀ b : BuiltIn, b.identifier ≠ d.identifier := fun b hid ↦
        hd (VariableDeclaration.isBuiltIn_iff.2 ⟨b, hid⟩)
      have hoffends : (∀ error, ¬Offends ds d error) ↔ d.identifier ∉ ds.map (·.identifier) := by
        refine ⟨fun h hmem ↦ h _ (.duplicate hordinary hmem), fun h error hoffends ↦ ?_⟩
        cases hoffends with
        | reserved b hid _ => exact hordinary b hid
        | duplicate _ hagain => exact h hagain
      rw [if_neg hd, hoffends, ← mem_map_ordinary_iff (Bool.not_eq_true _ ▸ hd), List.map_append,
        List.map_singleton, ← List.concat_eq_append, List.nodup_concat]
      constructor
      · rintro ⟨⟨htypes, hnodup⟩, hnew⟩
        exact ⟨⟨htypes, fun b hid ↦ absurd hid (hordinary b)⟩, hnew, hnodup⟩
      · rintro ⟨⟨htypes, -⟩, hnew, hnodup⟩
        exact ⟨⟨htypes, hnodup⟩, hnew⟩

/-! ### The laws -/

/-- When a list of declarations makes an item, which declarations the item and the slots of its
store have, and which `DefinitionError` there is if it makes none. -/
structure DeclarationLaws (ds : List VariableDeclaration) : Prop where
  accepted : (∃ l, declareAll ds = .ok l) ↔
    (∀ d ∈ ds, ∀ b : BuiltIn, b.identifier = d.identifier → b.declaration.sameType d) ∧
      ((ordinary ds).map (·.identifier)).Nodup
  /-- Where no variable of `builtIns` is listed twice, all variables have to be listed once. -/
  acceptedOnce : ((repeated ds).map (·.identifier)).Nodup → ((∃ l, declareAll ds = .ok l) ↔
    (ds.map (·.identifier)).Nodup ∧
      ∀ d ∈ ds, ∀ b : BuiltIn, b.identifier = d.identifier → b.declaration.sameType d)
  refused : ∀ error, declareAll ds = .error error ↔
    ∃ before d after, ds = before ++ d :: after ∧
      (∀ first e second error', before = first ++ e :: second → ¬Offends first e error') ∧
      Offends before d error
  /-- A variable has the declaration that is listed, the last one if there are more. -/
  listed : ∀ l, declareAll ds = .ok l → ∀ before d after, ds = before ++ d :: after →
    (∀ e ∈ after, e.identifier ≠ d.identifier) → findDeclaration? l d.identifier = some d
  standard : ∀ l, declareAll ds = .ok l → ∀ b : BuiltIn,
    (∀ d ∈ ds, d.identifier ≠ b.identifier) →
      findDeclaration? l b.identifier = some b.declaration
  nothingElse : ∀ l, declareAll ds = .ok l → ∀ x, (∀ d ∈ ds, d.identifier ≠ x) →
    (∀ b : BuiltIn, b.identifier ≠ x) → findDeclaration? l x = none
  /-- The variables of `builtIns` come first, and the others follow in the listed order. -/
  order : ∀ l, declareAll ds = .ok l →
    l = builtIns.map (fun b ↦ (findDeclaration? ds.reverse b.identifier).getD b) ++ ordinary ds
  once : ∀ l, declareAll ds = .ok l → (l.map (·.identifier)).Nodup
  slots : ∀ item : Item, declareAll ds = .ok item.declarations →
    ((Store.ofItem item).slots.map (·.declaration.identifier)).Nodup ∧
      ∀ x, ((Store.ofItem item).slot? x).isSome ↔
        (∃ b : BuiltIn, b.identifier = x) ∨ x ∈ ds.map (·.identifier)

theorem findDeclaration?_declareAll_of_last (h : declareAll ds = .ok l)
    {after : List VariableDeclaration} (hds : ds = before ++ d :: after)
    (hlast : ∀ e ∈ after, e.identifier ≠ d.identifier) :
    findDeclaration? l d.identifier = some d := by
  have hnone : findDeclaration? after.reverse d.identifier = none := by
    simpa [findDeclaration?] using hlast
  rw [findDeclaration?_declareAll h, hds, List.reverse_append, List.reverse_cons,
    List.append_assoc, findDeclaration?, List.find?_append, ← findDeclaration?, hnone]
  simp

theorem declarationLaws (ds : List VariableDeclaration) : DeclarationLaws ds where
  accepted := exists_declareAll_iff
  acceptedOnce hrepeated := by
    rw [exists_declareAll_iff, @nodup_map_identifier_iff ds, and_iff_right hrepeated, and_comm]
  refused _ := declareAll_eq_error_iff
  listed _ h _ _ _ := findDeclaration?_declareAll_of_last h
  standard l h b hne := by
    rw [findDeclaration?_declareAll_of_ne h hne, findDeclaration?_builtIns]
  nothingElse l h x hne hordinary := by
    rw [findDeclaration?_declareAll_of_ne h hne]
    cases hb : findDeclaration? builtIns x with
    | none => rfl
    | some e =>
      obtain ⟨b, hid, -⟩ := exists_builtIn hb
      exact absurd hid (hordinary b)
  order _ := declareAll_eq
  once _ h := (declared_of_declareAll h).nodup
  slots item h := by
    have hids : (Store.ofItem item).slots.map (·.declaration.identifier) =
        item.declarations.map (·.identifier) := by
      rw [Store.ofItem, List.map_map]
      rfl
    refine ⟨hids ▸ (declared_of_declareAll h).nodup, fun x ↦ ?_⟩
    rw [Store.slot?_ofItem, Option.isSome_map, Item.declaration?,
      findDeclaration?_declareAll h, Option.isSome_or, Bool.or_eq_true,
      isSome_findDeclaration?_iff, List.map_reverse, List.mem_reverse, or_comm]
    refine or_congr_left ⟨fun hb ↦ ?_, ?_⟩
    · obtain ⟨e, he⟩ := Option.isSome_iff_exists.1 hb
      obtain ⟨b, hid, -⟩ := exists_builtIn he
      exact ⟨b, hid⟩
    · rintro ⟨b, rfl⟩
      rw [findDeclaration?_builtIns]
      rfl

/-- A built-in variable may be listed twice, and the second declaration counts. -/
theorem twice_listed_accepted :
    let first : VariableDeclaration :=
      ⟨"numAttempts", .single, some .integer, .integer 1, .response .plain⟩
    let second : VariableDeclaration :=
      ⟨"numAttempts", .single, some .integer, .integer 2, .response .plain⟩
    declareAll [first, second] =
        .ok [BuiltIn.duration.declaration, second, BuiltIn.completionStatus.declaration] ∧
      ¬([first, second].map (·.identifier)).Nodup :=
  ⟨rfl, by decide⟩

end AssessmentItem
