import AssessmentItem.Proofs.Processing.Replay
import AssessmentItem.Proofs.Session.Calls
import AssessmentItem.Proofs.Session.Preparation

/-!
# Tries of template processing

A session prepares its store by trying template processing, again and again while a constraint
fails.  Every try begins with the store of the item, to which nothing has been written, and goes on
with the draws of the try before it.  There is always a last try: the first one in which no
constraint fails, or the hundredth.  The store is the one that this try leaves, with the defaults of
responses and outcomes, so nothing is left of the tries before it but the draws they have made.

## Main definitions

* `Session.nthTry` : the tries of an item, counted from 1.
* `Session.IsLastTry` : the try after which there is no other.
* `Session.SettledFrom` : what a store has of the run of a try.

## Main results

* `Session.prepare_eq_of_isLastTry` : what is prepared is what the last try has left.
* `Session.freshStore_eq_lastTry` : a session makes the tries up to the last one, and keeps that one
  alone.
-/

namespace AssessmentItem.Session

/-! ### The tries -/

/-- A try: template processing on `Store.ofItem`. -/
def tryTemplates (item : Item) (generator : Generator) : Except AuthoringError Outcome × Run :=
  execute item (item.ruleTrees .template) (.ofItem item) generator

/-- The generator after the given number of tries. -/
def generatorAfter (item : Item) (generator : Generator) : Nat → Generator
  | 0 => generator
  | n + 1 => (tryTemplates item (generatorAfter item generator n)).2.generator

/-- The `i`-th try, the first one being the try 1. -/
def nthTry (item : Item) (generator : Generator) (i : Nat) : Except AuthoringError Outcome × Run :=
  tryTemplates item (generatorAfter item generator (i - 1))

/-- Of at most `most` tries the try `k` is the last one: in those before it a constraint fails, and
in it none does unless it is the try `most`. -/
structure IsLastTry (item : Item) (most : Nat) (generator : Generator) (k : Nat) : Prop where
  pos : 1 ≤ k
  le : k ≤ most
  failed : ∀ i, 1 ≤ i → i < k → (nthTry item generator i).1 = .ok .constraintFailed
  last : k = most ∨ (nthTry item generator k).1 ≠ .ok .constraintFailed

variable {item : Item} {most : Nat} {generator : Generator} {k : Nat}

/-- The generator after one more try than `n` is that of `n` tries after the first. -/
theorem generatorAfter_succ (item : Item) (generator : Generator) (n : Nat) :
    generatorAfter item generator (n + 1) =
      generatorAfter item (generatorAfter item generator 1) n := by
  induction n with
  | zero => rfl
  | succ n ih => exact congrArg (fun g ↦ (tryTemplates item g).2.generator) ih

theorem nthTry_succ (item : Item) (generator : Generator) {i : Nat} (hi : 1 ≤ i) :
    nthTry item generator (i + 1) = nthTry item (generatorAfter item generator 1) i := by
  obtain ⟨n, rfl⟩ := Nat.exists_eq_add_of_le' hi
  exact congrArg (tryTemplates item) (generatorAfter_succ item generator n)

namespace IsLastTry

/-- There is one last try: `IsLastTry` determines it. -/
theorem eq (h : IsLastTry item most generator k) {k' : Nat}
    (h' : IsLastTry item most generator k') : k' = k := by
  -- Of two different ones the earlier is not the last: a constraint fails in it.
  have not_lt {i j : Nat} (hi : IsLastTry item most generator i)
      (hj : IsLastTry item most generator j) : ¬i < j := by
    intro hlt
    rcases hi.last with rfl | hne
    · exact Nat.not_lt.2 hj.le hlt
    · exact hne (hj.failed i hi.pos hlt)
  exact Nat.le_antisymm (Nat.not_lt.1 (not_lt h h')) (Nat.not_lt.1 (not_lt h' h))

theorem one (h : (nthTry item generator 1).1 ≠ .ok .constraintFailed) (most : Nat) :
    IsLastTry item (most + 1) generator 1 where
  pos := Nat.le_refl 1
  le := Nat.le_add_left 1 most
  failed _ hpos hlt := absurd hlt (Nat.not_lt.2 hpos)
  last := .inr h

/-- Where a constraint fails in the first try, the last one is the last of those after it. -/
theorem succ_iff (h : (nthTry item generator 1).1 = .ok .constraintFailed) (hk : 1 ≤ k) :
    IsLastTry item (most + 1) generator (k + 1) ↔
      IsLastTry item most (generatorAfter item generator 1) k := by
  constructor
  · intro hlast
    refine ⟨hk, Nat.le_of_succ_le_succ hlast.le, fun i hi hlt ↦ ?_, ?_⟩
    · rw [← nthTry_succ item generator hi]
      exact hlast.failed (i + 1) (Nat.le_add_left 1 i) (Nat.succ_lt_succ hlt)
    · rw [← nthTry_succ item generator hk]
      exact hlast.last.imp_left Nat.succ.inj
  · intro hlast
    refine ⟨Nat.le_add_left 1 k, Nat.succ_le_succ hlast.le, fun i hi hlt ↦ ?_, ?_⟩
    · obtain rfl | hi := Nat.eq_or_lt_of_le hi
      · exact h
      · obtain ⟨j, rfl⟩ := Nat.exists_eq_add_of_lt hi
        rw [Nat.add_comm 1 j, nthTry_succ item generator (Nat.le_add_left 1 j)]
        exact hlast.failed (j + 1) (Nat.le_add_left 1 j) (by omega)
    · rw [nthTry_succ item generator hk]
      exact hlast.last.imp_left (congrArg (· + 1))

end IsLastTry

theorem exists_isLastTry (item : Item) (tries : Nat) (generator : Generator) :
    ∃ k, IsLastTry item (tries + 1) generator k := by
  induction tries generalizing generator with
  | zero => exact ⟨1, Nat.le_refl 1, Nat.le_refl 1, fun i hi hlt ↦ absurd hlt (by omega), .inl rfl⟩
  | succ tries ih =>
    by_cases h : (nthTry item generator 1).1 = .ok .constraintFailed
    · obtain ⟨k, hk⟩ := ih (generatorAfter item generator 1)
      exact ⟨k + 1, (IsLastTry.succ_iff h hk.pos).2 hk⟩
    · exact ⟨1, .one h (tries + 1)⟩

/-! ### The store of the last try -/

/-- What `prepare` gives is what the last try has left, and so is the generator. -/
theorem prepare_eq_of_isLastTry (tries : Nat) (h : IsLastTry item (tries + 1) generator k) :
    prepare item tries generator =
      ((nthTry item generator k).1.map fun _ ↦ settleDefaults (nthTry item generator k).2.store,
        (nthTry item generator k).2.generator) := by
  induction tries generalizing generator k with
  | zero =>
    obtain rfl := Nat.le_antisymm h.le h.pos
    rfl
  | succ tries ih =>
    rcases hfirst : execute item (item.ruleTrees .template) (.ofItem item) generator
      with ⟨result, run⟩
    by_cases hfailed : result = .ok .constraintFailed
    · subst hfailed
      have hone : (nthTry item generator 1).1 = .ok .constraintFailed := congrArg Prod.fst hfirst
      have hgenerator : generatorAfter item generator 1 = run.generator :=
        congrArg (·.2.generator) hfirst
      obtain ⟨j, rfl⟩ := Nat.exists_eq_add_of_le' h.pos
      have hj : 1 ≤ j := by
        refine Nat.one_le_iff_ne_zero.2 ?_
        rintro rfl
        exact h.last.elim nofun fun hne ↦ hne hone
      rw [prepare, hfirst, nthTry_succ item generator hj]
      change prepare item tries run.generator = _
      rw [← hgenerator]
      exact ih ((IsLastTry.succ_iff hone hj).1 h)
    · have hone : nthTry item generator 1 = (result, run) := hfirst
      obtain rfl := (IsLastTry.one (by rwa [hone]) (tries + 1)).eq h
      rw [prepare, hfirst, hone]
      split
      · rename_i heq
        cases heq
        exact absurd rfl hfailed
      · rename_i heq
        cases heq
        rfl

/-- A store has what `run` has left, with the defaults of responses and outcomes: the values of
template variables, and the overrides.  Nothing else has been written than what the run itself has
assigned. -/
structure SettledFrom (item : Item) (run : Run) (store : Store) : Prop where
  replayed : (Store.ofItem item).replay run.assignments = .ok run.store
  declarations_eq : store.declarations = item.declarations
  templates : ∀ x d, item.declaration? x = some d → d.kind = .template →
    store.value? x = run.store.value? x
  overrides : ∀ x part, part ≠ .value → store.held? part x = run.store.held? part x
  defaults : ∀ x d, item.declaration? x = some d → d.kind ≠ .template →
    store.value? x = some ((store.held? .default x).getD d.initialValue)

theorem settledFrom_nthTry (item : Item) (generator : Generator) (i : Nat) :
    SettledFrom item (nthTry item generator i).2
      (settleDefaults (nthTry item generator i).2.store) := by
  have hlogged := logged_execute_ruleTrees item .template (.ofItem item)
    (generatorAfter item generator (i - 1))
  have hdecl : (nthTry item generator i).2.store.declarations = item.declarations :=
    hlogged.replays.declarations_eq.trans (Store.declarations_ofItem item)
  have hfind {x : String} {d : VariableDeclaration} (hd : item.declaration? x = some d) :
      (nthTry item generator i).2.store.declaration? x = some d := by
    rw [Store.declaration?_eq, hdecl]
    exact hd
  refine ⟨hlogged.replays.replay_eq, ?_, fun x d hd hkind ↦ ?_, fun x part hpart ↦ ?_,
    fun x d hd hkind ↦ ?_⟩
  · rw [declarations_settleDefaults, hdecl]
  · have hprepared : (nthTry item generator i).2.store.IsPrepared .value x := by
      intro _ d' hd'
      obtain rfl := Option.some.inj ((hfind hd).symm.trans hd')
      exact hkind
    rw [← Store.held?_value, hprepared.held?_settleDefaults, Store.held?_value]
  · have hprepared : (nthTry item generator i).2.store.IsPrepared part x :=
      fun hvalue ↦ absurd hvalue hpart
    exact hprepared.held?_settleDefaults
  · have hprepared : (nthTry item generator i).2.store.IsPrepared .default x := nofun
    rw [value?_settleDefaults (hfind hd) hkind, hprepared.held?_settleDefaults]
    exact Store.default?_eq_getD (hfind hd)

/-! ### The tries of a session -/

/-- There is one last try among a hundred.  The call `freshStore` makes the tries up to it, so that
the `generator` is as that try has left it, and nothing else of the session changes.  It fails
exactly if that try fails, with the same error; otherwise the store is that of the last try alone,
with the defaults of responses and outcomes. -/
theorem freshStore_eq_lastTry (s : Session) :
    ∃ k, (∀ k', IsLastTry s.item 100 s.generator k' ↔ k' = k) ∧
      (freshStore.run s).2 = { s with generator := (nthTry s.item s.generator k).2.generator } ∧
      (∀ e, (freshStore.run s).1 = .error e ↔
        ∃ error, (nthTry s.item s.generator k).1 = .error error ∧ e = .authoring error) ∧
      (∀ outcome, (nthTry s.item s.generator k).1 = .ok outcome →
        ∃ store, (freshStore.run s).1 = .ok store ∧
          SettledFrom s.item (nthTry s.item s.generator k).2 store) := by
  obtain ⟨k, hk⟩ := exists_isLastTry s.item 99 s.generator
  have hprepare := prepare_eq_of_isLastTry 99 hk
  have hrun : freshStore.run s =
      ((nthTry s.item s.generator k).1.mapError SessionError.authoring |>.map fun _ ↦
          settleDefaults (nthTry s.item s.generator k).2.store,
        { s with generator := (nthTry s.item s.generator k).2.generator }) := by
    have hbegin : freshStore.run s =
        (match prepare s.item 99 s.generator with
          | (.ok store, generator) => (.ok store, { s with generator })
          | (.error error, generator) => (.error (.authoring error), { s with generator })) := by
      rw [freshStore, run_bind, run_get]
      dsimp only [maxTemplateTries]
      rcases prepare s.item 99 s.generator with ⟨_ | _, _⟩ <;> rfl
    rw [hbegin, hprepare]
    rcases (nthTry s.item s.generator k).1 with _ | _ <;> rfl
  refine ⟨k, fun k' ↦ ⟨hk.eq, ?_⟩, ?_, fun e ↦ ?_, fun outcome houtcome ↦ ?_⟩
  · rintro rfl
    exact hk
  · rw [hrun]
  · rw [hrun]
    cases (nthTry s.item s.generator k).1 with
    | error error => simp [Except.mapError, Except.map, eq_comm]
    | ok outcome => simp [Except.mapError, Except.map]
  · refine ⟨_, ?_, settledFrom_nthTry s.item s.generator k⟩
    rw [hrun, houtcome]
    rfl

end AssessmentItem.Session
