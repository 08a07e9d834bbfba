/-!
# Results and computations

A result is a value or an error.  A computation takes a state to a result and to another state,
and what it has done to the state stays done where it fails.  What is said of either is said of
the value and of the error at once, so that a statement never leaves the failing case open.

## Main definitions

* `Gives` : what holds of the value or of the error of a result.
* `Ends` : what holds of the value or of the error of a computation and of the state it leaves.
* `Keeps` : a computation keeps a property of the state and fails with certain errors alone.

## Main results

* `gives_bind`, `ends_bind` : what holds of two steps, said of the first.
* `gives_mapM`, `gives_mapM_map` : what holds of every member of a list read member by member.
* `exists_mapM_eq_ok` : a list is read where each of its members is.
* `mapM_map_eq_ok` : a list is read back where each of its members is.
* `run_bind` : the run of two steps.
* `keeps_bind` : a property that both steps keep is kept.
-/

namespace AssessmentItem

variable {ε ε' σ α β : Type}

/-! ### Results -/

/-- `Q` holds of the value of a result, or `E` of its error. -/
def Gives (r : Except ε α) (Q : α → Prop) (E : ε → Prop) : Prop :=
  match r with
  | .ok a => Q a
  | .error e => E e

section Gives

variable {Q Q' : α → Prop} {E E' : ε → Prop}

instance (r : Except ε α) [DecidablePred Q] [DecidablePred E] : Decidable (Gives r Q E) :=
  match r with
  | .ok a => inferInstanceAs (Decidable (Q a))
  | .error e => inferInstanceAs (Decidable (E e))

@[simp] theorem gives_ok (a : α) : Gives (.ok a) Q E ↔ Q a := Iff.rfl

@[simp] theorem gives_error (e : ε) : Gives (.error e) Q E ↔ E e := Iff.rfl

@[simp] theorem gives_pure (a : α) : Gives (pure a) Q E ↔ Q a := Iff.rfl

@[simp] theorem gives_throw (e : ε) : Gives (throw e) Q E ↔ E e := Iff.rfl

@[simp] theorem gives_bind (r : Except ε α) (f : α → Except ε β) {Q : β → Prop} :
    Gives (r >>= f) Q E ↔ Gives r (fun a ↦ Gives (f a) Q E) E := by
  cases r <;> rfl

@[simp] theorem gives_map (f : α → β) (r : Except ε α) {Q : β → Prop} :
    Gives (f <$> r) Q E ↔ Gives r (fun a ↦ Q (f a)) E := by
  cases r <;> rfl

@[simp] theorem gives_mapError (f : ε → ε') (r : Except ε α) {E : ε' → Prop} :
    Gives (r.mapError f) Q E ↔ Gives r Q fun e ↦ E (f e) := by
  cases r <;> rfl

theorem Gives.mono {r : Except ε α} (h : Gives r Q E) (hQ : ∀ a, Q a → Q' a)
    (hE : ∀ e, E e → E' e) : Gives r Q' E' := by
  cases r with
  | ok a => exact hQ a h
  | error e => exact hE e h

/-- The value of a first step may be any, if `Q` does not depend on it. -/
theorem Gives.of_forall {r : Except ε α} (h : Gives r (fun _ ↦ True) E) (hQ : ∀ a, Q a) :
    Gives r Q E :=
  h.mono (fun a _ ↦ hQ a) fun _ he ↦ he

theorem Gives.of_eq_ok {r : Except ε α} (h : Gives r Q E) {a : α} (hr : r = .ok a) : Q a := by
  subst hr
  exact h

/-- A computation that cannot fail gives a value. -/
theorem Gives.exists_eq_ok {r : Except ε α} (h : Gives r Q fun _ ↦ False) :
    ∃ a, r = .ok a ∧ Q a := by
  cases r with
  | ok a => exact ⟨a, rfl, h⟩
  | error => exact h.elim

theorem Gives.of_eq_error {r : Except ε α} (h : Gives r Q E) {e : ε} (hr : r = .error e) :
    E e := by
  subst hr
  exact h

theorem gives_any (r : Except ε α) : Gives r (fun _ ↦ True) fun _ ↦ True := by
  cases r <;> trivial

theorem gives_of_forall_eq {r : Except ε α} (hQ : ∀ a, r = .ok a → Q a)
    (hE : ∀ e, r = .error e → E e) : Gives r Q E := by
  cases r with
  | ok a => exact hQ a rfl
  | error e => exact hE e rfl

/-- The result of `r >>= f` is a value if `r` gives one and `f` does from there. -/
theorem bind_eq_ok_iff {r : Except ε α} {f : α → Except ε β} {b : β} :
    (r >>= f) = .ok b ↔ ∃ a, r = .ok a ∧ f a = .ok b := by
  cases r with
  | error e => simp [bind, Except.bind]
  | ok a => simp [bind, Except.bind]

theorem map_eq_ok_iff {f : α → β} {r : Except ε α} {b : β} :
    f <$> r = .ok b ↔ ∃ a, r = .ok a ∧ f a = b := by
  cases r with
  | error e => simp [Functor.map, Except.map]
  | ok a => simp [Functor.map, Except.map]

theorem mapError_eq_ok_iff {f : ε → ε'} {r : Except ε α} {a : α} :
    r.mapError f = .ok a ↔ r = .ok a := by
  cases r with
  | error e => exact ⟨nofun, nofun⟩
  | ok b =>
    change Except.ok b = .ok a ↔ _
    rw [Except.ok.injEq, Except.ok.injEq]

theorem toOption_eq_some_iff {r : Except ε α} {a : α} : r.toOption = some a ↔ r = .ok a := by
  cases r with
  | error e => exact ⟨nofun, nofun⟩
  | ok b => rw [Except.toOption, Option.some.injEq, Except.ok.injEq]

/-- What `f` gives of each member of a list has `Q`, so all that `mapM` gives has it. -/
theorem gives_mapM {f : β → Except ε α} :
    (l : List β) → (∀ b ∈ l, Gives (f b) Q E) → Gives (l.mapM f) (fun as ↦ ∀ a ∈ as, Q a) E
  | [], _ => by simp
  | b :: l, h => by
      have hb : Gives (f b) Q E := h b List.mem_cons_self
      have hl := gives_mapM l fun b' hb' ↦ h b' (List.mem_cons_of_mem b hb')
      simp only [List.mapM_cons, gives_bind, gives_pure, List.forall_mem_cons]
      exact hb.mono (fun a ha ↦ hl.mono (fun _ has ↦ ⟨ha, has⟩) fun _ he ↦ he) fun _ he ↦ he

/-- Where `φ` of what `f` gives of each member agrees with `ψ` of the member, so it is for all that
`mapM` gives. -/
theorem gives_mapM_map {γ : Type} {f : β → Except ε α} {φ : α → γ} {ψ : β → γ} :
    (l : List β) → (∀ b ∈ l, Gives (f b) (fun a ↦ φ a = ψ b) E) →
    Gives (l.mapM f) (fun as ↦ as.map φ = l.map ψ) E
  | [], _ => by simp
  | b :: l, h => by
      have hb := h b List.mem_cons_self
      have hl := gives_mapM_map l fun b' hb' ↦ h b' (List.mem_cons_of_mem b hb')
      simp only [List.mapM_cons, gives_bind, gives_pure, List.map_cons, List.cons.injEq]
      exact hb.mono (fun a ha ↦ hl.mono (fun _ has ↦ ⟨ha, has⟩) fun _ he ↦ he) fun _ he ↦ he

/-- Where `f` succeeds on each member of a list, `mapM` does, with as many results. -/
theorem exists_mapM_eq_ok {f : β → Except ε α} :
    (l : List β) → (∀ b ∈ l, ∃ a, f b = .ok a ∧ Q a) →
    ∃ as, l.mapM f = .ok as ∧ as.length = l.length ∧ ∀ a ∈ as, Q a
  | [], _ => ⟨[], rfl, rfl, nofun⟩
  | b :: l, h => by
      obtain ⟨a, ha, hQ⟩ := h b List.mem_cons_self
      obtain ⟨as, has, hlength, hall⟩ :=
        exists_mapM_eq_ok l fun b' hb' ↦ h b' (List.mem_cons_of_mem b hb')
      refine ⟨a :: as, ?_, congrArg (· + 1) hlength, List.forall_mem_cons.2 ⟨hQ, hall⟩⟩
      rw [List.mapM_cons, ha, has]
      rfl

/-- If `f` reads each `g a` back, `mapM` reads the list back. -/
theorem mapM_map_eq_ok {f : β → Except ε α} {g : α → β} :
    (l : List α) → (∀ a ∈ l, f (g a) = .ok a) → (l.map g).mapM f = .ok l
  | [], _ => rfl
  | a :: l, h => by
      rw [List.map_cons, List.mapM_cons, h a List.mem_cons_self,
        mapM_map_eq_ok l fun a' ha' ↦ h a' (List.mem_cons_of_mem a ha')]
      rfl

theorem mapM_congr_of_forall {f g : β → Except ε α} :
    (l : List β) → (∀ b ∈ l, f b = g b) → l.mapM f = l.mapM g
  | [], _ => by simp
  | b :: l, h => by
      rw [List.mapM_cons, List.mapM_cons, h b List.mem_cons_self,
        mapM_congr_of_forall l fun b' hb' ↦ h b' (List.mem_cons_of_mem b hb')]

end Gives

/-! ### Computations -/

/-- From a state a computation comes to a value with `Q`, or to an error with `E`, of what it gives
and of the state that it leaves. -/
def Ends (m : ExceptT ε (StateM σ) α) (s : σ) (Q : α → σ → Prop) (E : ε → σ → Prop) : Prop :=
  match m.run s with
  | (.ok a, s') => Q a s'
  | (.error e, s') => E e s'

section Ends

variable {s : σ} {Q Q' : α → σ → Prop} {E E' : ε → σ → Prop}

@[simp] theorem ends_pure (a : α) : Ends (pure a) s Q E ↔ Q a s := Iff.rfl

@[simp] theorem ends_throw (e : ε) : Ends (throw e) s Q E ↔ E e s := Iff.rfl

@[simp] theorem ends_get {Q : σ → σ → Prop} : Ends get s Q E ↔ Q s s := Iff.rfl

@[simp] theorem ends_set (s' : σ) {Q : PUnit → σ → Prop} : Ends (set s') s Q E ↔ Q () s' := Iff.rfl

@[simp] theorem ends_modify (f : σ → σ) {Q : PUnit → σ → Prop} :
    Ends (modify f) s Q E ↔ Q () (f s) :=
  Iff.rfl

@[simp] theorem ends_modifyGet (f : σ → α × σ) :
    Ends (modifyGet f) s Q E ↔ Q (f s).1 (f s).2 :=
  Iff.rfl

@[simp] theorem ends_bind (m : ExceptT ε (StateM σ) α) (f : α → ExceptT ε (StateM σ) β)
    {Q : β → σ → Prop} :
    Ends (m >>= f) s Q E ↔ Ends m s (fun a s' ↦ Ends (f a) s' Q E) E := by
  change (match (m.run >>= ExceptT.bindCont f) s with
    | (.ok b, s') => Q b s'
    | (.error e, s') => E e s') ↔ _
  rw [Ends]
  change (match ExceptT.bindCont f (m.run s).1 (m.run s).2 with
    | (.ok b, s') => Q b s'
    | (.error e, s') => E e s') ↔ _
  rcases m.run s with ⟨_ | _, _⟩ <;> rfl

@[simp] theorem ends_map (f : α → β) (m : ExceptT ε (StateM σ) α) {Q : β → σ → Prop} :
    Ends (f <$> m) s Q E ↔ Ends m s (fun a s' ↦ Q (f a) s') E := by
  rw [← bind_pure_comp, ends_bind]
  rfl

/-- The result `r` as a computation that leaves the state as it is. -/
@[simp] theorem ends_mk_pure (r : Except ε α) :
    Ends (ExceptT.mk (pure r)) s Q E ↔ Gives r (fun a ↦ Q a s) fun e ↦ E e s := by
  cases r <;> rfl

@[simp] theorem ends_adapt (f : ε → ε') (m : ExceptT ε (StateM σ) α) {E : ε' → σ → Prop} :
    Ends (ExceptT.adapt f m) s Q E ↔ Ends m s Q fun e s' ↦ E (f e) s' := by
  change (match (Except.mapError f (m.run s).1, (m.run s).2) with
    | (.ok b, s') => Q b s'
    | (.error e, s') => E e s') ↔ _
  rw [Ends]
  rcases m.run s with ⟨_ | _, _⟩ <;> rfl

theorem Ends.mono {m : ExceptT ε (StateM σ) α} (h : Ends m s Q E)
    (hQ : ∀ a s', Q a s' → Q' a s') (hE : ∀ e s', E e s' → E' e s') : Ends m s Q' E' := by
  revert h
  rw [Ends, Ends]
  rcases m.run s with ⟨_ | _, _⟩
  · exact hE _ _
  · exact hQ _ _

theorem Ends.and {m : ExceptT ε (StateM σ) α} (h : Ends m s Q E) (h' : Ends m s Q' E') :
    Ends m s (fun a s' ↦ Q a s' ∧ Q' a s') fun e s' ↦ E e s' ∧ E' e s' := by
  revert h h'
  rw [Ends, Ends, Ends]
  rcases m.run s with ⟨_ | _, _⟩ <;> exact And.intro

/-- The value that `m` comes to is the one of its run. -/
theorem Ends.with_run {m : ExceptT ε (StateM σ) α} (h : Ends m s Q E) :
    Ends m s (fun a s' ↦ m.run s = (.ok a, s') ∧ Q a s') E := by
  revert h
  rw [Ends, Ends]
  rcases m.run s with ⟨_ | _, _⟩
  · exact id
  · exact fun hQ ↦ ⟨rfl, hQ⟩

/-- What `Ends` says of a value may be replaced by what is the same of it. -/
theorem ends_congr {m : ExceptT ε (StateM σ) α}
    (h : ∀ a s', m.run s = (.ok a, s') → (Q a s' ↔ Q' a s')) : Ends m s Q E ↔ Ends m s Q' E := by
  rw [Ends, Ends]
  split
  · rename_i a s' hr
    exact h a s' hr
  · rfl

theorem Ends.of_run_eq_ok {m : ExceptT ε (StateM σ) α} (h : Ends m s Q E) {a : α} {s' : σ}
    (hr : m.run s = (.ok a, s')) : Q a s' := by
  rw [Ends, hr] at h
  exact h

/-- A computation that cannot fail comes to a value. -/
theorem Ends.exists_run_eq_ok {m : ExceptT ε (StateM σ) α} (h : Ends m s Q fun _ _ ↦ False) :
    ∃ a s', m.run s = (.ok a, s') ∧ Q a s' := by
  revert h
  rw [Ends]
  rcases m.run s with ⟨e | a, s'⟩
  · exact False.elim
  · exact fun h ↦ ⟨a, s', rfl, h⟩

theorem ends_any (m : ExceptT ε (StateM σ) α) (s : σ) :
    Ends m s (fun _ _ ↦ True) fun _ _ ↦ True := by
  rw [Ends]
  split <;> trivial

/-- What a run of a computation comes to. -/
theorem ends_run (m : ExceptT ε (StateM σ) α) (s : σ) {P : Except ε α → σ → Prop} :
    Ends m s (fun a ↦ P (.ok a)) (fun e ↦ P (.error e)) ↔ P (m.run s).1 (m.run s).2 := by
  rw [Ends]
  rcases m.run s with ⟨_ | _, _⟩ <;> rfl

/-- The run of `m` gives `a` and `s'` if `m` ends with these. -/
theorem ends_eq_iff {m : ExceptT ε (StateM σ) α} {a : α} {s' : σ} :
    (Ends m s (fun b t ↦ b = a ∧ t = s') fun _ _ ↦ False) ↔ m.run s = (.ok a, s') := by
  rw [Ends]
  rcases m.run s with ⟨e | b, t⟩
  · exact ⟨False.elim, nofun⟩
  · rw [Prod.mk.injEq, Except.ok.injEq]

/-- The run of `m` fails with `e` and leaves `s'` if `m` ends so. -/
theorem ends_error_iff {m : ExceptT ε (StateM σ) α} {e : ε} {s' : σ} :
    (Ends m s (fun _ _ ↦ False) fun e' t ↦ e' = e ∧ t = s') ↔ m.run s = (.error e, s') := by
  rw [Ends]
  rcases m.run s with ⟨e' | a, t⟩
  · rw [Prod.mk.injEq, Except.error.injEq]
  · exact ⟨False.elim, nofun⟩

end Ends

/-! ### Runs of two steps -/

section Run

variable {m : ExceptT ε (StateM σ) α} {f : α → ExceptT ε (StateM σ) β} {s s' : σ}

theorem run_bind (m : ExceptT ε (StateM σ) α) (f : α → ExceptT ε (StateM σ) β) (s : σ) :
    (m >>= f).run s =
      match m.run s with
      | (.ok a, s') => (f a).run s'
      | (.error e, s') => (.error e, s') := by
  change ExceptT.bindCont f (m.run s).1 (m.run s).2 = _
  rcases m.run s with ⟨_ | _, _⟩ <;> rfl

/-- The second step `f` goes on from where `m` has come. -/
theorem run_bind_of_run_eq_ok {a : α} (h : m.run s = (.ok a, s')) (f : α → ExceptT ε (StateM σ) β) :
    (m >>= f).run s = (f a).run s' := by
  rw [run_bind, h]

theorem run_get (s : σ) : (get : ExceptT ε (StateM σ) σ).run s = (.ok s, s) := rfl

/-- If `m` ends alike from two states, `m >>= f` does. -/
theorem run_bind_congr (h : m.run s = m.run s') (f : α → ExceptT ε (StateM σ) β) :
    (m >>= f).run s = (m >>= f).run s' := by
  rw [run_bind, run_bind, h]

/-- The run of a computation that comes to a value. -/
theorem exists_run_eq_ok (h : Gives (m.run s).1 (fun _ ↦ True) fun _ ↦ False) :
    ∃ a, m.run s = (.ok a, (m.run s).2) := by
  obtain ⟨a, ha, -⟩ := h.exists_eq_ok
  exact ⟨a, Prod.ext ha rfl⟩

/-- The run of `m >>= f` gives a value if `m` does and `f` does from there. -/
theorem run_bind_eq_ok_iff {b : β} :
    (m >>= f).run s = (.ok b, s') ↔
      ∃ a s₁, m.run s = (.ok a, s₁) ∧ (f a).run s₁ = (.ok b, s') := by
  rw [run_bind]
  rcases m.run s with ⟨e | a, s₁⟩
  · constructor
    · exact nofun
    · rintro ⟨_, _, h, -⟩
      cases h
  · constructor
    · intro h
      exact ⟨a, s₁, rfl, h⟩
    · rintro ⟨_, _, heq, h⟩
      cases heq
      exact h

/-- The run of `m >>= f` fails if `m` does or `f` does from there. -/
theorem run_bind_eq_error_iff {e : ε} :
    (m >>= f).run s = (.error e, s') ↔
      m.run s = (.error e, s') ∨
        ∃ a s₁, m.run s = (.ok a, s₁) ∧ (f a).run s₁ = (.error e, s') := by
  rw [run_bind]
  rcases m.run s with ⟨e' | a, s₁⟩
  · rw [Prod.mk.injEq, Prod.mk.injEq, Except.error.injEq, Except.error.injEq, iff_self_or]
    rintro ⟨_, _, h, -⟩
    cases h
  · constructor
    · exact fun h ↦ .inr ⟨a, s₁, rfl, h⟩
    · rintro (h | ⟨_, _, heq, h⟩)
      · cases h
      · cases heq
        exact h

end Run

/-! ### What stays -/

/-- A computation keeps a property of the state, whether it fails or not, and fails with errors of
`E` alone. -/
def Keeps (I : σ → Prop) (E : ε → Prop) (m : ExceptT ε (StateM σ) α) : Prop :=
  ∀ s, I s → Ends m s (fun _ ↦ I) fun e s' ↦ I s' ∧ E e

section Keeps

variable {I : σ → Prop} {E : ε → Prop}

theorem keeps_pure (a : α) : Keeps I E (pure a : ExceptT ε (StateM σ) α) := fun _ h ↦ h

theorem keeps_throw {e : ε} (he : E e) : Keeps I E (throw e : ExceptT ε (StateM σ) α) :=
  fun _ h ↦ ⟨h, he⟩

theorem keeps_bind {m : ExceptT ε (StateM σ) α} {f : α → ExceptT ε (StateM σ) β}
    (hm : Keeps I E m) (hf : ∀ a, Keeps I E (f a)) : Keeps I E (m >>= f) := by
  intro s hs
  rw [ends_bind]
  exact (hm s hs).mono (fun a s' hs' ↦ hf a s' hs') fun _ _ h ↦ h

theorem Keeps.run {m : ExceptT ε (StateM σ) α} (h : Keeps I E m) {s : σ} (hs : I s) :
    I (m.run s).2 :=
  (ends_run m s (P := fun _ s' ↦ I s')).1
    ((h s hs).mono (fun _ _ h ↦ h) fun _ _ h ↦ h.1)

theorem Keeps.of_run_eq_error {m : ExceptT ε (StateM σ) α} (h : Keeps I E m) {s : σ} (hs : I s)
    {e : ε} (he : (m.run s).1 = .error e) : E e := by
  have hE : Gives (m.run s).1 (fun _ ↦ True) E :=
    (ends_run m s (P := fun r _ ↦ Gives r (fun _ ↦ True) E)).1
      ((h s hs).mono (fun _ _ _ ↦ trivial) fun _ _ h ↦ h.2)
  exact hE.of_eq_error he

end Keeps

end AssessmentItem
