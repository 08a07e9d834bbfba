import AssessmentItem.Proofs.Session.Typing

/-!
# Expressions of items that are read

The declared values of an item that is read from a document have their types.  So an expression that
is evaluated for the item, with a store that holds values, defaults and correct values of the
declared types, keeps what it promises, and so does every expression below it.

## Main results

* `Evaluation.promises_of_evaluate` : the types of the values of expressions.
-/

namespace AssessmentItem.Evaluation

/-- For an `item` that is read from a `document` and a `store` of its variables in which every slot
is well typed, the value of an expression is NULL or of the type that the expression promises, and
so are the values of all expressions below it. -/
theorem promises_of_evaluate {document : ItemDocument} {item : Item}
    (read : document.item = .ok item) {store : Store}
    (declared : store.declarations = item.declarations)
    (typed : ∀ slot ∈ store.slots, slot.WellTyped) {tree : ExpressionTree} {g g' : Generator}
    {v : Value} (evaluated : (evaluate ⟨item, store⟩ tree).run g = (.ok v, g')) :
    Promises ⟨item, store⟩ tree g v := by
  have hstore : store.WellTyped := by
    constructor
    · rw [declared]
      exact (wellTyped_of_item read).1
    · exact typed
  exact (@ends_evaluate ⟨item, store⟩ hstore tree g).of_run_eq_ok evaluated

/-- The correct identifiers of `RESPONSE` without the first one. -/
def otherChoices : ExpressionTree :=
  .node 2 (.operator .delete)
    [.node 0 (.leaf (.baseValue (.identifier "A"))) [],
      .node 1 (.leaf (.correctOf "RESPONSE")) []]

/-- The identifier `B` that is left. -/
def otherIdentifiers : Container where
  baseType := .identifier
  members := [.identifier "B"]
  uniform := by decide

/-- The value is the container `otherIdentifiers`, and no draw is made. -/
theorem promises_otherChoices :
    (evaluate ⟨Session.choiceItem, .ofItem Session.choiceItem⟩ otherChoices).run (.ofSeed 0) =
        (.ok (.multiple otherIdentifiers), .ofSeed 0) ∧
      Promises ⟨Session.choiceItem, .ofItem Session.choiceItem⟩ otherChoices (.ofSeed 0)
        (.multiple otherIdentifiers) := by
  have hitem := (wellTyped_of_item Session.choiceDocument_item).1
  have evaluated : (evaluate ⟨Session.choiceItem, .ofItem Session.choiceItem⟩ otherChoices).run
      (.ofSeed 0) = (.ok (.multiple otherIdentifiers), .ofSeed 0) := by rfl
  exact ⟨evaluated, promises_of_evaluate Session.choiceDocument_item
    (Store.declarations_ofItem _) (Store.wellTyped_ofItem hitem).slots evaluated⟩

end AssessmentItem.Evaluation
