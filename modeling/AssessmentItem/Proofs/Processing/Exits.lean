import AssessmentItem.Proofs.Processing.Execution

/-!
# Ends of lists of rules

A list of rules runs like its beginning, and goes on with the others only if the beginning
completes.  A condition runs like the rules that its guards choose and a fragment like its rules, so
neither goes on after an end that is not `Outcome.completed`.  Whatever ends a list at some depth
therefore ends every list around it, with the same result and the same run.

## Main definitions

* `Processing.andThen` : later rules, after those before them have completed.
* `Processing.Enters` : the run of a list comes to a list within it, or to what is left of it.

## Main results

* `Processing.runRules_append` : the run of a list is that of its beginning and of its rest.
* `Processing.run_runRules_append_of_ne_completed` : what ends the beginning of a list ends the
  list.
* `Processing.Enters.run_runRules_eq` : what ends a list that a run comes to ends the whole list.
-/

namespace AssessmentItem.Processing

variable {item : Item} {run run' run₁ : Run} {result : Except AuthoringError Outcome}
  {rules inner : List RuleTree}

/-- The run of `later`, if what stands before it has ended with `.completed`. -/
def andThen (later : Processing Outcome) : Outcome → Processing Outcome
  | .completed => later
  | outcome => return outcome

theorem runRules_cons (rule : RuleTree) (rules : List RuleTree) :
    runRules item (rule :: rules) = runRule item rule >>= andThen (runRules item rules) := by
  rw [runRules]
  refine congrArg (runRule item rule >>= ·) (funext fun outcome ↦ ?_)
  cases outcome <;> rfl

/-- The list `rules ++ later` runs like `rules`, and then like `later`. -/
theorem runRules_append (rules later : List RuleTree) :
    runRules item (rules ++ later) = runRules item rules >>= andThen (runRules item later) := by
  induction rules with
  | nil =>
    rw [List.nil_append, runRules, pure_bind]
    rfl
  | cons rule rules ih =>
    rw [List.cons_append, runRules_cons, ih, runRules_cons, bind_assoc]
    refine congrArg (runRule item rule >>= ·) (funext fun outcome ↦ ?_)
    cases outcome with
    | completed => rfl
    | exited phase => exact (pure_bind _ _).symm
    | constraintFailed => exact (pure_bind _ _).symm

theorem runRules_singleton (rule : RuleTree) : runRules item [rule] = runRule item rule := by
  rw [runRules_cons]
  refine (congrArg (runRule item rule >>= ·) (funext fun outcome ↦ ?_)).trans (bind_pure _)
  cases outcome with
  | completed => rw [andThen, runRules]
  | exited phase => rfl
  | constraintFailed => rfl

theorem runRule_fragment (id : NodeId) (rules : List RuleTree) :
    runRule item (.node id (.fragment rules)) = runRules item rules := by
  rw [runRule]

/-! ### Ends of the beginning -/

/-- After an end that is not `Outcome.completed` nothing runs. -/
theorem run_bind_andThen_of_ne_completed {first : Processing Outcome}
    (h : first.run run = (result, run')) (hresult : result ≠ .ok .completed)
    (later : Processing Outcome) : (first >>= andThen later).run run = (result, run') := by
  rw [run_bind, h]
  cases result with
  | error error => rfl
  | ok outcome =>
    cases outcome with
    | completed => exact absurd rfl hresult
    | exited phase => rfl
    | constraintFailed => rfl

/-- Whatever ends the beginning `rules` of a list early ends the list. -/
theorem run_runRules_append_of_ne_completed (h : (runRules item rules).run run = (result, run'))
    (hresult : result ≠ .ok .completed) (later : List RuleTree) :
    (runRules item (rules ++ later)).run run = (result, run') := by
  rw [runRules_append]
  exact run_bind_andThen_of_ne_completed h hresult _

/-- Whatever ends the `first` rule of a list early ends the list. -/
theorem run_runRules_cons_of_ne_completed {first : RuleTree}
    (h : (runRule item first).run run = (result, run')) (hresult : result ≠ .ok .completed)
    (rest : List RuleTree) : (runRules item (first :: rest)).run run = (result, run') := by
  rw [runRules_cons]
  exact run_bind_andThen_of_ne_completed h hresult _

/-! ### Ends at any depth -/

/-- The run of a list of rules from a state comes to a list `inner`, and is then in another state:
to the list itself, to what is left of it once its first rules have ended with `.completed`, to the
rules of a `.fragment` or to those that the guards of a `.condition` choose, and on from each of
these. -/
inductive Enters (item : Item) : List RuleTree → Run → List RuleTree → Run → Prop
  | here (rules : List RuleTree) (run : Run) : Enters item rules run rules run
  | later {first : RuleTree} {rules inner : List RuleTree} {run run' run₁ : Run}
      (completed : (runRule item first).run run = (.ok .completed, run'))
      (entered : Enters item rules run' inner run₁) : Enters item (first :: rules) run inner run₁
  | fragment {id : NodeId} {below rules inner : List RuleTree} {run run₁ : Run}
      (entered : Enters item below run inner run₁) :
      Enters item (.node id (.fragment below) :: rules) run inner run₁
  | branch {id : NodeId} {phase : Phase} {branches : List (Branch ExpressionTree RuleTree)}
      {otherwise rules inner : List RuleTree} {run run' run₁ : Run}
      {b : Branch ExpressionTree RuleTree}
      (chosen : Chooses item (Rule.condition phase branches otherwise).name branches run (some b)
        run')
      (entered : Enters item b.rules run' inner run₁) :
      Enters item (.node id (.condition phase branches otherwise) :: rules) run inner run₁
  | otherwise {id : NodeId} {phase : Phase} {branches : List (Branch ExpressionTree RuleTree)}
      {otherwise rules inner : List RuleTree} {run run' run₁ : Run}
      (chosen : Chooses item (Rule.condition phase branches otherwise).name branches run none run')
      (entered : Enters item otherwise run' inner run₁) :
      Enters item (.node id (.condition phase branches otherwise) :: rules) run inner run₁

/-- Whatever ends a list that a run `Enters`, if it is not `.completed`, ends the whole list. -/
theorem Enters.run_runRules_eq (h : Enters item rules run inner run₁)
    (hinner : (runRules item inner).run run₁ = (result, run'))
    (hresult : result ≠ .ok .completed) : (runRules item rules).run run = (result, run') := by
  -- The list around is one rule longer at the front, or has the list within its first rule.
  induction h with
  | here => exact hinner
  | later completed _ ih =>
    rw [runRules_cons, run_bind_of_run_eq_ok completed]
    exact ih hinner
  | fragment _ ih =>
    refine run_runRules_cons_of_ne_completed ?_ hresult _
    rw [runRule_fragment]
    exact ih hinner
  | branch chosen _ ih | otherwise chosen _ ih =>
    refine run_runRules_cons_of_ne_completed ?_ hresult _
    rw [run_condition_of_chooses chosen]
    exact ih hinner

end AssessmentItem.Processing
