import AssessmentItem.Proofs.Processing.Assignments

/-!
# Replaying the assignments of a run

A run notes what it assigns, and nothing else that it does changes the store.  So its assignments,
made once more and in their order on the store that it began with, can all be made again, and they
lead to the store that it leaves: its values, its defaults and its correct values.  This holds
however the run ends, and wherever in its rules it fails.

## Main definitions

* `Assignment.apply` : an assignment made on a store.
* `Store.replay` : a list of assignments made on a store, one after the other.

## Main results

* `replay_execute` : the assignments of a run replay its store.
* `Store.Replays.replay_put` : what no assignment writes may be put back after them as well as
  before.
-/

namespace AssessmentItem

open Processing

/-- The store after an assignment is made. Rules of the kinds `.outcomeValue`, `.templateValue` and
`.lookup` write the current value of a variable, the other two its default and its correct value. -/
def Assignment.apply (a : Assignment) (store : Store) : Except AssignmentFault Store :=
  match a.kind with
  | .outcomeValue | .templateValue | .lookup => store.write .value a.identifier a.value
  | .defaultValue => store.write .default a.identifier a.value
  | .correctResponse => store.write .correct a.identifier a.value

theorem Assignment.apply_eq_write (a : Assignment) (store : Store) :
    a.apply store = store.write (part a.kind) a.identifier a.value := by
  unfold apply
  generalize a.kind = kind
  cases kind <;> rfl

namespace Store

/-- The store after the assignments `as` are made in their order; the first that cannot be made is
the fault. -/
def replay (store : Store) (as : List Assignment) : Except AssignmentFault Store :=
  as.foldlM (fun store a ↦ a.apply store) store

@[simp] theorem replay_nil (store : Store) : store.replay [] = .ok store := rfl

theorem replay_snoc {store store' : Store} {as : List Assignment} (a : Assignment)
    (h : store.replay as = .ok store') : store.replay (as ++ [a]) = a.apply store' := by
  rw [replay] at h ⊢
  rw [List.foldlM_append, h]
  exact bind_pure (a.apply store')

namespace Replays

variable {store store' : Store} {as : List Assignment} {x : String} {v w : Value}

/-- Assignments with `Replays` give in `replay` the store that they lead to. -/
theorem replay_eq (h : store.Replays as store') : store.replay as = .ok store' := by
  induction h with
  | nil => exact replay_nil _
  | @snoc _ _ as a _ last ih => rw [replay_snoc a ih, a.apply_eq_write, last.written]

/-- A value of `x` that no assignment writes may have been changed before them: once it is put back
after them, it is as if they had been made on the store with the value unchanged. -/
theorem replay_put (h : (store.put .value x w).Replays as store')
    (distinct : (store.declarations.map (·.identifier)).Nodup) (hv : store.value? x = some v)
    (hx : ∀ a ∈ as, a.identifier = x → part a.kind ≠ .value) :
    store.replay as = .ok (store'.put .value x v) := by
  induction h with
  | nil => rw [replay_nil, put_put, put_value_self distinct hv]
  | @snoc _ _ as a _ last ih =>
    have hbefore := ih fun a ha ↦ hx a (List.mem_append_left _ ha)
    rw [replay_snoc a hbefore, a.apply_eq_write]
    refine write_put_of_ne last.written ?_
    by_cases hid : a.identifier = x
    · exact .inr (hx a (by simp) hid)
    · exact .inl hid

end Replays

end Store

/-- The `assignments` that a run of `execute` has noted, made on the `store` that it began with, can
all be made and give the store that it leaves, however it ends. -/
theorem replay_execute (item : Item) (rules : List RuleTree) (store : Store)
    (generator : Generator) :
    store.replay (execute item rules store generator).2.assignments =
      .ok (execute item rules store generator).2.store := by
  have hrules : ∀ rule ∈ rules, rule.Each (fun _ _ ↦ True) fun _ ↦ True :=
    RuleTree.each_rules_of_forall (fun _ _ ↦ trivial) (fun _ ↦ trivial) rules
  exact (logged_execute item hrules store generator).replays.replay_eq

end AssessmentItem
