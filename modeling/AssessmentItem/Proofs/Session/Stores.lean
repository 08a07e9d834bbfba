import AssessmentItem.Session.Basic
import AssessmentItem.Proofs.Processing.Assignments

/-!
# The stores of a session

A session begins on a store that template processing prepares, and goes on with the stores that the
values of a submission are written to and that get their defaults again.  What such a store holds
follows from what is written, one value after the other.

## Main results

* `Session.exists_replays_of_prepare` : a prepared store comes from the store of the item by
  assignments and defaults.
* `Session.writeAll_induction` : what every value that is written keeps.
-/

namespace AssessmentItem.Session

/-! ### Defaults -/

@[simp] theorem declarations_settleDefaults (store : Store) :
    (settleDefaults store).declarations = store.declarations := by
  rw [settleDefaults, Store.declarations_resetKind, Store.declarations_resetKind]

@[simp] theorem default?_settleDefaults (store : Store) (x : String) :
    (settleDefaults store).default? x = store.default? x := by
  rw [settleDefaults, Store.default?_resetKind, Store.default?_resetKind]

/-- In a store after `settleDefaults` the responses and outcomes have their defaults. -/
theorem value?_settleDefaults {store : Store} {x : String} {d : VariableDeclaration}
    (hd : store.declaration? x = some d) (hkind : d.kind ≠ .template) :
    (settleDefaults store).value? x = store.default? x := by
  have hd' : (store.resetKind .response).declaration? x = some d := by
    rw [Store.declaration?_congr (store.declarations_resetKind .response), hd]
  rw [settleDefaults]
  cases hcase : d.kind with
  | template => exact absurd hcase hkind
  | response =>
    rw [Store.value?_resetKind_of_ne hd' (by simp [hcase]), Store.value?_resetKind_self hd hcase]
  | outcome => rw [Store.value?_resetKind_self hd' hcase, Store.default?_resetKind]

/-! ### Preparation -/

/-- A store that `prepare` gives is the one of the last run of template processing, with the
defaults of responses and outcomes. -/
theorem prepare_eq_ok {item : Item} {store : Store} {generator' : Generator} :
    (tries : Nat) → (generator : Generator) →
    prepare item tries generator = (.ok store, generator') →
    ∃ start outcome run, execute item (item.ruleTrees .template) (.ofItem item) start =
      (.ok outcome, run) ∧ store = settleDefaults run.store
  | 0, generator, h => by
      rw [prepare] at h
      rcases hrun : execute item (item.ruleTrees .template) (.ofItem item) generator
        with ⟨error | outcome, run⟩
      · rw [hrun] at h
        cases h
      · rw [hrun] at h
        cases h
        exact ⟨generator, outcome, run, hrun, rfl⟩
  | tries + 1, generator, h => by
      rw [prepare] at h
      rcases hrun : execute item (item.ruleTrees .template) (.ofItem item) generator
        with ⟨error | outcome, run⟩
      · rw [hrun] at h
        cases h
      · rw [hrun] at h
        cases outcome with
        | constraintFailed => exact prepare_eq_ok tries run.generator h
        | completed =>
          cases h
          exact ⟨generator, _, run, hrun, rfl⟩
        | exited phase =>
          cases h
          exact ⟨generator, _, run, hrun, rfl⟩

/-- A store that `prepare` gives comes from `Store.ofItem` by assignments and `settleDefaults`. -/
theorem exists_replays_of_prepare {item : Item} {tries : Nat} {generator generator' : Generator}
    {store : Store} (h : prepare item tries generator = (.ok store, generator')) :
    ∃ run : Run, store = settleDefaults run.store ∧
      run.Logged item.layout.Holds (.ofItem item) := by
  obtain ⟨start, outcome, run, hrun, hstore⟩ := prepare_eq_ok tries generator h
  have hlogged := logged_execute_ruleTrees item .template (.ofItem item) start
  rw [hrun] at hlogged
  exact ⟨run, hstore, hlogged⟩

theorem declarations_prepare {item : Item} {tries : Nat} {generator generator' : Generator}
    {store : Store} (h : prepare item tries generator = (.ok store, generator')) :
    store.declarations = item.declarations := by
  obtain ⟨run, rfl, hlogged⟩ := exists_replays_of_prepare h
  rw [declarations_settleDefaults, hlogged.replays.declarations_eq, Store.declarations_ofItem]

/-! ### Submitted values -/

/-- What the writing of every value keeps, `writeAll` keeps. -/
theorem writeAll_induction {P : Store → Prop} : (values : List (String × Value)) →
    (store : Store) → P store →
    (∀ store store', ∀ e ∈ values, store.write .value e.1 e.2 = .ok store' → P store → P store') →
    P (writeAll store values).1
  | [], _, h, _ => h
  | (identifier, v) :: rest, store, h, step => by
      have hrest := fun store store' e (he : e ∈ rest) ↦
        step store store' e (List.mem_cons_of_mem _ he)
      rw [writeAll]
      split
      · rename_i store' hwritten
        exact writeAll_induction rest store' (step _ _ _ List.mem_cons_self hwritten h) hrest
      · exact writeAll_induction rest store h hrest

theorem declarations_writeAll (store : Store) (values : List (String × Value)) :
    (writeAll store values).1.declarations = store.declarations :=
  writeAll_induction (P := fun written ↦ written.declarations = store.declarations) values store rfl
    fun _ _ _ _ hwritten h ↦ (Store.declarations_write hwritten).trans h

end AssessmentItem.Session
