import AssessmentItem.Proofs.Evaluation.Signatures
import AssessmentItem.Proofs.Pattern.Lawful
import AssessmentItem.Proofs.Response.Validation

/-!
# Patterns of an item

An item has patterns in two places: an operator asks whether a text matches one, and a response
variable may have a mask that its texts have to match.  In both places a text that is no pattern is
an error of the author, and a pattern is to match the text as a whole.  Both put the anchors around
the text before they read it, so this holds of the texts that can be enclosed in anchors; of others
it does not.

What is a pattern and what it matches is the matter of a `PatternLibrary`, of which nothing is known
but the laws of `PatternLibrary.Lawful`.

## Main definitions

* `Masked` : a response variable that has a mask, and its value.
* `AnchoringLaws` : what a text does in the two places.

## Main results

* `isValid_eq_error`, `exists_isValid_eq_ok` : the response variables with a mask.
* `anchoringLaws` : with any lawful library the laws hold for every text that can be enclosed.
-/

namespace AssessmentItem

open Evaluation PatternLibrary

section Library

variable [PatternLibrary]

/-! ### The operator -/

section Operator

variable {scope : Scope} {id : NodeId} {e : ExpressionTree} {g g' : Generator}
  {pattern candidate : String}

/-- The operator `patternMatch` on an expression that gives the text `candidate`. -/
theorem run_evaluate_patternMatch
    (h : (evaluate scope e).run g = (.ok (.single (.string candidate)), g')) :
    (evaluate scope (.node id (.operator (.patternMatch pattern)) [e])).run g =
      match matchesWhole? pattern candidate with
      | some b => (.ok (.boolean b), g')
      | none => (.error ⟨scope.site id (.operator (.patternMatch pattern)), .pattern⟩, g') := by
  have hchildren : (evaluateAll scope [e]).run g = (.ok [.single (.string candidate)], g') := by
    rw [evaluateAll, run_bind_of_run_eq_ok h]
    rfl
  have happly : applyOperator scope.store (.patternMatch pattern) [.single (.string candidate)] =
      settled (matchPattern pattern (.single (.string candidate))) :=
    applyOperator_eq_settled nofun (fun _ ↦ List.forall_mem_singleton.2 rfl)
      (List.forall_mem_singleton.2 (Signature.admits_single (.head _) rfl))
  have hmatch : matchPattern pattern (.single (.string candidate)) =
      match matchesWhole? pattern candidate with
      | some b => .ok (.boolean b)
      | none => .error .pattern := by
    change (match matchesWhole? pattern (String.ofList candidate.toList) with
      | some b => _ | none => _) = _
    rw [String.ofList_toList]
    rfl
  rw [evaluate]
  change (evaluateAll scope [e] >>= _).run g = _
  rw [run_bind_of_run_eq_ok hchildren, happly, hmatch]
  cases matchesWhole? pattern candidate <;> rfl

end Operator

/-! ### Masks -/

/-- A response variable has constraints `c` with the pattern mask `mask`, and holds the value
`v`. -/
structure Masked (store : Store) (d : VariableDeclaration) (mask : String) (c : ResponseConstraints)
    (v : Value) : Prop where
  constraints_eq : d.response?.map (·.constraints) = some c
  mask_eq : c.patternMask = some mask
  held : store.value? d.identifier = some v

section Masks

variable [PatternSemantics] {item : Item} {store : Store} {d : VariableDeclaration}
  {mask : String} {c : ResponseConstraints} {v : Value} {regex : Regex} {invalid : List String}

/-- As many members as `c` allows, and the texts among them match the pattern as a whole. -/
def Satisfies (v : Value) (c : ResponseConstraints) (regex : Regex) : Prop :=
  c.allowsCount v.members.length ∧ ∀ s ∈ v.members, ∀ text ∈ s.text?, MatchesWhole regex text

theorem maskAccepts_enclosed (matching : MatchesParts) (regex : Regex) (members : List Scalar) :
    maskAccepts (enclosed regex) members ↔
      ∀ s ∈ members, ∀ text ∈ s.text?, MatchesWhole regex text := by
  rw [maskAccepts, List.all_eq_true]
  refine forall₂_congr fun s _ ↦ ?_
  rw [Option.all_eq_true]
  exact forall₂_congr fun text _ ↦ matching.occursIn_enclosed

omit [PatternSemantics] in
theorem isValid_eq (h : Masked store d mask c v) :
    isValid store d = c.accepts d.identifier v.members := by
  obtain ⟨details, hdetails, rfl⟩ := Option.map_eq_some_iff.1 h.constraints_eq
  rw [isValid, hdetails, h.held]

/-- A mask that `read?` refuses is an error of the author. -/
theorem isValid_eq_error (lawful : Lawful) (henclosable : Enclosable mask)
    (h : Masked store d mask c v) (hread : read? mask = none) :
    isValid store d = .error ⟨⟨"patternMask", d.identifier⟩, .pattern⟩ := by
  have hwhole : whole? mask = none := by
    rw [whole?_eq lawful henclosable, hread, Option.map_none]
  rw [isValid_eq h, ResponseConstraints.accepts, h.mask_eq]
  simp only [Option.mapM_some, hwhole]
  rfl

/-- Any other mask is a pattern, and the response is valid exactly if its value `Satisfies` it. -/
theorem exists_isValid_eq_ok (lawful : Lawful) (henclosable : Enclosable mask)
    (h : Masked store d mask c v) (hread : read? mask = some regex) :
    ∃ b, isValid store d = .ok b ∧ (b = true ↔ Satisfies v c regex) := by
  have hwhole : whole? mask = some (enclosed regex) := by
    rw [whole?_eq lawful henclosable, hread, Option.map_some]
  refine ⟨c.allowsCount v.members.length && maskAccepts (enclosed regex) v.members, ?_, ?_⟩
  · rw [isValid_eq h, ResponseConstraints.accepts, h.mask_eq]
    simp only [Option.mapM_some, hwhole]
    rfl
  · rw [Bool.and_eq_true, maskAccepts_enclosed lawful.matching]
    rfl

omit [PatternSemantics] in
/-- What `isValid` finds of the declarations `ds`, one by one. -/
theorem mem_checked {ds : List VariableDeclaration} {checked : List (String × Bool)}
    (h : (ds.mapM fun d ↦ return (d.identifier, ← isValid store d)) = .ok checked) :
    (∀ d ∈ ds, ∃ b, isValid store d = .ok b) ∧
      ∀ x b, (x, b) ∈ checked ↔ ∃ d ∈ ds, d.identifier = x ∧ isValid store d = .ok b := by
  induction ds generalizing checked with
  | nil =>
    cases h
    simp
  | cons d ds ih =>
    rw [List.mapM_cons] at h
    obtain ⟨first, hfirst, h⟩ := bind_eq_ok_iff.1 h
    obtain ⟨rest, hrest, h⟩ := bind_eq_ok_iff.1 h
    obtain ⟨b, hb, hfirst⟩ := bind_eq_ok_iff.1 hfirst
    cases h
    cases hfirst
    obtain ⟨hread, hmem⟩ := ih hrest
    refine ⟨List.forall_mem_cons.2 ⟨⟨b, hb⟩, hread⟩, fun x b' ↦ ?_⟩
    rw [List.mem_cons, hmem, List.exists_mem_cons_iff, hb, Prod.mk.injEq, Except.ok.injEq]
    exact or_congr_left (and_congr eq_comm eq_comm)

omit [PatternSemantics] in
/-- A validation that comes to an end has found of every response variable whether it `isValid`, and
lists those that are not. -/
theorem validateResponses_eq_ok (h : validateResponses item store = .ok invalid) :
    (∀ d ∈ item.declarationsOf .response, ∃ b, isValid store d = .ok b) ∧
      ∀ x, x ∈ invalid ↔
        ∃ d ∈ item.declarationsOf .response, d.identifier = x ∧ isValid store d = .ok false := by
  obtain ⟨checked, hchecked, h⟩ := bind_eq_ok_iff.1 h
  obtain ⟨hread, hmem⟩ := mem_checked hchecked
  cases h
  refine ⟨hread, fun x ↦ ?_⟩
  rw [← hmem, List.mem_map]
  constructor
  · rintro ⟨⟨y, b⟩, hchecked, rfl⟩
    obtain ⟨hchecked, hb⟩ := List.mem_filter.1 hchecked
    cases b with
    | false => exact hchecked
    | true => cases hb
  · intro hchecked
    exact ⟨(x, false), List.mem_filter.2 ⟨hchecked, rfl⟩, rfl⟩

/-- A validation that comes to an end lists a `Masked` response variable exactly if its value does
not satisfy the constraints. -/
theorem mem_invalid_iff_not_satisfies (lawful : Lawful) (henclosable : Enclosable mask)
    (h : Masked store d mask c v) (hd : d ∈ item.declarationsOf .response)
    (hnodup : (item.declarations.map (·.identifier)).Nodup)
    (hvalidated : validateResponses item store = .ok invalid) :
    ∃ regex, read? mask = some regex ∧ (d.identifier ∈ invalid ↔ ¬Satisfies v c regex) := by
  obtain ⟨hchecked, hinvalid⟩ := validateResponses_eq_ok hvalidated
  cases hread : read? mask with
  | none =>
    obtain ⟨b, hb⟩ := hchecked d hd
    cases hb.symm.trans (isValid_eq_error lawful henclosable h hread)
  | some regex =>
    obtain ⟨b, hb, hsatisfies⟩ := exists_isValid_eq_ok lawful henclosable h hread
    refine ⟨regex, rfl, ?_⟩
    rw [hinvalid, ← hsatisfies, Bool.not_eq_true]
    constructor
    · rintro ⟨d', hd', hid, hb'⟩
      have hfind := findDeclaration?_of_mem hnodup (List.mem_filter.1 hd).1
      have hfind' := findDeclaration?_of_mem hnodup (List.mem_filter.1 hd').1
      obtain rfl := Option.some.inj ((hid ▸ hfind').symm.trans hfind)
      cases hb.symm.trans hb'
      rfl
    · rintro rfl
      exact ⟨d, hd, rfl, hb⟩

end Masks

/-! ### Both -/

/-- What the text `pattern` does as the pattern of `patternMatch` and as a mask. -/
structure AnchoringLaws [PatternSemantics] (pattern : String) : Prop where
  /-- The operator is an error of the author exactly for a text that `read?` refuses. -/
  match_error_iff {scope : Scope} {id : NodeId} {e : ExpressionTree} {g g' : Generator}
    {candidate : String} : (evaluate scope e).run g = (.ok (.single (.string candidate)), g') →
      ((∃ error, ((evaluate scope (.node id (.operator (.patternMatch pattern)) [e])).run g).1 =
          .error error) ↔ read? pattern = none)
  /-- The error stands at the operator, after its operand has been evaluated. -/
  match_error {scope : Scope} {id : NodeId} {e : ExpressionTree} {g g' : Generator}
    {candidate : String} : (evaluate scope e).run g = (.ok (.single (.string candidate)), g') →
      read? pattern = none →
      (evaluate scope (.node id (.operator (.patternMatch pattern)) [e])).run g =
        (.error ⟨scope.site id (.operator (.patternMatch pattern)), .pattern⟩, g')
  /-- Otherwise the operator is true exactly of the texts that the pattern matches as a whole
  (`MatchesWhole`). -/
  match_true_iff {scope : Scope} {id : NodeId} {e : ExpressionTree} {g g' : Generator}
    {candidate : String} {regex : Regex} :
    (evaluate scope e).run g = (.ok (.single (.string candidate)), g') →
      read? pattern = some regex →
      ∃ b, (evaluate scope (.node id (.operator (.patternMatch pattern)) [e])).run g =
          (.ok (.boolean b), g') ∧ (b = true ↔ MatchesWhole regex candidate)
  /-- A response variable with the mask is an error of the author exactly for a text that `read?`
  refuses. -/
  mask_error_iff {store : Store} {d : VariableDeclaration} {c : ResponseConstraints} {v : Value} :
    Masked store d pattern c v →
      ((∃ error, isValid store d = .error error) ↔ read? pattern = none)
  /-- The error names the variable and `patternMask`. -/
  mask_error {store : Store} {d : VariableDeclaration} {c : ResponseConstraints} {v : Value} :
    Masked store d pattern c v → read? pattern = none →
      isValid store d = .error ⟨⟨"patternMask", d.identifier⟩, .pattern⟩
  /-- Otherwise the variable is valid exactly if its value `Satisfies` the constraints: its members
  are as many as are allowed, and the pattern matches every text among them as a whole. -/
  mask_true_iff {store : Store} {d : VariableDeclaration} {c : ResponseConstraints} {v : Value}
    {regex : Regex} : Masked store d pattern c v → read? pattern = some regex →
      ∃ b, isValid store d = .ok b ∧ (b = true ↔ Satisfies v c regex)
  /-- A validation that comes to an end has found a pattern in the mask, and lists the variable
  exactly if its value does not satisfy the constraints. -/
  mem_invalid_iff {item : Item} {store : Store} {d : VariableDeclaration} {c : ResponseConstraints}
    {v : Value} {invalid : List String} : Masked store d pattern c v →
      d ∈ item.declarationsOf .response → (item.declarations.map (·.identifier)).Nodup →
      validateResponses item store = .ok invalid →
      ∃ regex, read? pattern = some regex ∧ (d.identifier ∈ invalid ↔ ¬Satisfies v c regex)

/-- With a library that is `PatternLibrary.Lawful`, a text that is `Enclosable` in anchors is
refused in both places exactly if the library refuses the text on its own, and else has to match as
a whole. -/
theorem anchoringLaws [PatternSemantics] (lawful : Lawful) {pattern : String}
    (h : Enclosable pattern) : AnchoringLaws pattern where
  match_error_iff {scope id e g g' candidate} hchild := by
    rw [run_evaluate_patternMatch hchild]
    cases hread : read? pattern with
    | none => simp [matchesWhole?_eq_none lawful h hread]
    | some regex =>
      obtain ⟨b, hb, -⟩ := exists_matchesWhole?_eq lawful h hread candidate
      simp [hb]
  match_error hchild hread := by
    rw [run_evaluate_patternMatch hchild, matchesWhole?_eq_none lawful h hread]
  match_true_iff {scope id e g g' candidate regex} hchild hread := by
    obtain ⟨b, hb, hmatches⟩ := exists_matchesWhole?_eq lawful h hread candidate
    refine ⟨b, ?_, hmatches⟩
    rw [run_evaluate_patternMatch hchild, hb]
  mask_error_iff hmasked := by
    cases hread : read? pattern with
    | none => simp [isValid_eq_error lawful h hmasked hread]
    | some regex =>
      obtain ⟨b, hb, -⟩ := exists_isValid_eq_ok lawful h hmasked hread
      simp [hb]
  mask_error hmasked hread := isValid_eq_error lawful h hmasked hread
  mask_true_iff hmasked hread := exists_isValid_eq_ok lawful h hmasked hread
  mem_invalid_iff hmasked hd hnodup hvalidated :=
    mem_invalid_iff_not_satisfies lawful h hmasked hd hnodup hvalidated

end Library

/-- The operator `patternMatch` on a given text. -/
def matchExpression (pattern candidate : String) : ExpressionTree :=
  .node 1 (.operator (.patternMatch pattern)) [.node 0 (.leaf (.baseValue (.string candidate))) []]

/-- The response `LETTER` with the mask `a|b`. -/
def letterDeclaration : VariableDeclaration where
  identifier := "LETTER"
  cardinality := .single
  baseType := some .string
  default := .null
  details := .response ⟨.null, none, none, ⟨0, none, some "a|b"⟩⟩

/-- A store in which `LETTER` holds two letters. -/
def letterStore : Store := ⟨[⟨letterDeclaration, .single (.string "ab"), none, none⟩]⟩

/-- The reader of patterns is `Lawful`, and alternatives stay together between the anchors: neither
anchor belongs to one of them alone. -/
theorem anchoringLaws_alternatives :
    Lawful ∧ Enclosable "a|b" ∧
      (evaluate emptyScope (matchExpression "a|b" "ab")).run (.ofSeed 0) =
        (.ok (.boolean false), .ofSeed 0) ∧
      isValid letterStore letterDeclaration = .ok false ∧
      Enclosable "(" ∧
      (evaluate emptyScope (matchExpression "(" "a")).run (.ofSeed 0) =
        (.error ⟨emptyScope.site 1 (.operator (.patternMatch "(")), .pattern⟩, .ofSeed 0) := by
  have henclosable : Enclosable "a|b" := by decide +kernel
  have hopen : Enclosable "(" := by decide +kernel
  obtain ⟨regex, hread⟩ : ∃ regex, read? "a|b" = some regex :=
    Option.isSome_iff_exists.1 (by decide +kernel)
  have hmatch : ¬MatchesWhole regex "ab" := by
    have hoccurs : ((read? "a|b").all fun regex ↦ !occursIn (enclosed regex) "ab") = true := by
      decide +kernel
    rw [hread, Option.all_some, Bool.not_eq_true'] at hoccurs
    rw [← Pattern.matchesParts.occursIn_enclosed]
    exact Bool.eq_false_iff.1 hoccurs
  have hsatisfies : ¬Satisfies (.single (.string "ab")) ⟨0, none, some "a|b"⟩ regex :=
    fun h ↦ hmatch (h.2 _ (.head _) "ab" rfl)
  have hgiven (text : String) :
      (evaluate emptyScope (.node 0 (.leaf (.baseValue (.string text))) [])).run (.ofSeed 0) =
        (.ok (.single (.string text)), .ofSeed 0) := rfl
  have hmasked : Masked letterStore letterDeclaration "a|b" ⟨0, none, some "a|b"⟩
      (.single (.string "ab")) := ⟨rfl, rfl, rfl⟩
  have hlaws := anchoringLaws Pattern.lawful henclosable
  obtain ⟨b, hrun, hb⟩ := hlaws.match_true_iff (hgiven "ab") hread
  obtain ⟨b', hvalid, hb'⟩ := hlaws.mask_true_iff hmasked hread
  have hfalse : b = false := Bool.eq_false_iff.2 (mt hb.1 hmatch)
  have hfalse' : b' = false := Bool.eq_false_iff.2 (mt hb'.1 hsatisfies)
  subst hfalse hfalse'
  exact ⟨Pattern.lawful, henclosable, hrun, hvalid, hopen,
    (anchoringLaws Pattern.lawful hopen).match_error (hgiven "a")
      (Option.isNone_iff_eq_none.1 (by decide +kernel))⟩

/-- Of texts that are not `Enclosable`, `a)|(b` with a parenthesis that nothing opens is no pattern,
yet is taken for one; and `(?x)a#c` with a comment at its end is a pattern that matches a text, yet
is refused. -/
theorem unopened_parenthesis_accepted :
    read? "a)|(b" = none ∧
      (evaluate emptyScope (matchExpression "a)|(b" "a")).run (.ofSeed 0) =
        (.ok (.boolean true), .ofSeed 0) ∧
      (∃ regex, read? "(?x)a#c" = some regex ∧ MatchesWhole regex "a") ∧
      (evaluate emptyScope (matchExpression "(?x)a#c" "a")).run (.ofSeed 0) =
        (.error ⟨emptyScope.site 1 (.operator (.patternMatch "(?x)a#c")), .pattern⟩,
          .ofSeed 0) := by
  have hgiven : (evaluate emptyScope (.node 0 (.leaf (.baseValue (.string "a"))) [])).run
      (.ofSeed 0) = (.ok (.single (.string "a")), .ofSeed 0) := rfl
  have hrun (pattern : String) :
      (evaluate emptyScope (matchExpression pattern "a")).run (.ofSeed 0) = _ :=
    run_evaluate_patternMatch hgiven
  have haccepted : matchesWhole? "a)|(b" "a" = some true := by decide +kernel
  have hrefused : matchesWhole? "(?x)a#c" "a" = none := by decide +kernel
  obtain ⟨regex, hread⟩ : ∃ regex, read? "(?x)a#c" = some regex :=
    Option.isSome_iff_exists.1 (by decide +kernel)
  refine ⟨Option.isNone_iff_eq_none.1 (by decide +kernel), ?_, ⟨regex, hread, ?_⟩, ?_⟩
  · rw [hrun, haccepted]
  · have hoccurs : ((read? "(?x)a#c").all fun regex ↦ occursIn (enclosed regex) "a") = true := by
      decide +kernel
    rw [hread, Option.all_some] at hoccurs
    exact Pattern.matchesParts.occursIn_enclosed.1 hoccurs
  · rw [hrun, hrefused]

end AssessmentItem
