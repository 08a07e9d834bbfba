import AssessmentItem.Pattern.Limits
import AssessmentItem.Proofs.Pattern.Anchoring

/-!
# Readers that keep to their text

The text of a pattern is read with a closing parenthesis and a dollar sign put after it.  Most
readers do not see a difference: what they read of a text they read of the longer one too, and leave
the rest of it as it was.  What they read beyond the text they cannot use, since only two characters
follow it and the group that stands open takes them both.  There is one way out of the text: a
comment that no line feed ends goes on over the two characters.

## Main definitions

* `Pattern.ReaderState.closed` : a state with the two characters after its text.
* `Pattern.ConfinedAt`, `Pattern.ConfinedUpTo`, `Pattern.Confined` : readers that keep to their
  text.
* `Pattern.Takes` : readers that take at least so many characters.

## Main results

* `Pattern.ConfinedUpTo.bind` : a reader after another one.
-/

namespace AssessmentItem.Pattern

variable {α β : Type} {stuck : α → ReaderState → Prop} {stuck' : β → ReaderState → Prop}
  {r r' : Reader α} {f : α → Reader β} {a : α} {b : β} {st st' s : ReaderState}
  {cs : List Char} {k l : Nat}

/-! ### Runs -/

theorem run_bind_eq_some_iff :
    (r >>= f).run st = some (b, s) ↔
      ∃ a st', r.run st = some (a, st') ∧ (f a).run st' = some (b, s) := by
  rw [StateT.run_bind]
  cases h : r.run st with
  | none => simp
  | some x =>
    obtain ⟨a, st'⟩ := x
    constructor
    · intro hb
      exact ⟨a, st', rfl, hb⟩
    · rintro ⟨_, _, ⟨⟩, hb⟩
      exact hb

theorem run_bind_of_run_eq (h : r.run st = some (a, st')) :
    (r >>= f).run st = (f a).run st' := by
  rw [StateT.run_bind, h]
  rfl

theorem run_discard_of_run_eq (h : r.run st = some (a, s)) :
    (discard r).run st = some ((), s) :=
  run_bind_of_run_eq (f := fun _ ↦ pure ()) h

theorem run_bind_congr {g : α → Reader β}
    (h : ∀ a s, r.run st = some (a, s) → (f a).run s = (g a).run s) :
    (r >>= f).run st = (r >>= g).run st := by
  rw [StateT.run_bind, StateT.run_bind]
  cases hr : r.run st with
  | none => rfl
  | some x => exact h x.1 x.2 hr

theorem run_take_eq_some_iff {c : Char} :
    take.run st = some (c, s) ↔ ∃ cs, st.rest = c :: cs ∧ s = { st with rest := cs } := by
  rcases st with ⟨_ | ⟨d, ds⟩, flags, names⟩
  · exact ⟨nofun, fun ⟨cs, h, _⟩ ↦ nomatch h⟩
  · constructor
    · rintro ⟨⟩
      exact ⟨ds, rfl, rfl⟩
    · rintro ⟨cs, ⟨⟩, rfl⟩
      rfl

/-! ### Texts and what follows them -/

/-- The state with `[')', '$']` after its text. -/
def ReaderState.closed (st : ReaderState) : ReaderState := { st with rest := st.rest ++ [')', '$'] }

@[simp] theorem ReaderState.rest_closed (st : ReaderState) :
    st.closed.rest = st.rest ++ [')', '$'] := rfl

/-- What `afterBlanks` drops ends in the text, unless a comment goes on beyond it. -/
theorem afterBlanks_append (inComment : Bool) (cs : List Char) :
    afterBlanks inComment (cs ++ [')', '$']) = afterBlanks inComment cs ++ [')', '$'] ∨
      (afterBlanks inComment cs = [] ∧ afterBlanks inComment (cs ++ [')', '$']) = [] ∧
        (inComment ∧ '\n' ∉ cs ∨ OpenComment cs)) := by
  induction cs generalizing inComment with
  | nil =>
    cases inComment with
    | true => exact .inr ⟨rfl, by decide, .inl ⟨rfl, by simp⟩⟩
    | false => exact .inl (by decide)
  | cons c cs ih =>
    rw [List.cons_append, afterBlanks, afterBlanks]
    split
    · refine (ih (c != '\n')).imp_right fun ⟨hown, hclosed, hopen⟩ ↦ ⟨hown, hclosed, ?_⟩
      refine hopen.imp (fun ⟨hc, hcs⟩ ↦ ⟨‹_›, ?_⟩) .inr
      rw [bne_iff_ne] at hc
      simpa [hc.symm] using hcs
    · split
      · refine (ih false).imp_right fun ⟨hown, hclosed, hopen⟩ ↦ ⟨hown, hclosed, .inr ?_⟩
        exact .inr (hopen.resolve_left fun h ↦ nomatch h.1)
      · split
        · rename_i hhash
          refine (ih true).imp_right fun ⟨hown, hclosed, hopen⟩ ↦ ⟨hown, hclosed, .inr ?_⟩
          exact hopen.imp (fun ⟨_, hcs⟩ ↦ ⟨hhash, hcs⟩) id
        · exact .inl rfl

theorem afterBlanks_suffix (inComment : Bool) (cs : List Char) :
    afterBlanks inComment cs <:+ cs := by
  induction cs generalizing inComment with
  | nil => exact List.suffix_rfl
  | cons c cs ih =>
    rw [afterBlanks]
    split
    · exact (ih _).trans (List.suffix_cons c cs)
    · split
      · exact (ih _).trans (List.suffix_cons c cs)
      · split
        · exact (ih _).trans (List.suffix_cons c cs)
        · exact List.suffix_rfl

/-! ### Confined readers -/

/-- At a state, a reader keeps to its text: what it reads of the text it reads of the longer one
too, unless it has gone to the end and a comment stands open there; and what it reads of the longer
text it reads of the text, if the two characters after the text are left.  Excepted are results of
the longer text with which nothing can be read after them, which the predicate `stuck` tells. -/
structure ConfinedAt (stuck : α → ReaderState → Prop) (r : Reader α) (st : ReaderState) : Prop where
  rest_suffix : ∀ a s, r.run st = some (a, s) → s.rest <:+ st.rest
  flags_eq : st.rest = [] → ∀ a s, r.run st = some (a, s) → s.flags = st.flags
  onward : ∀ a s, r.run st = some (a, s) →
    r.run st.closed = some (a, s.closed) ∨ s.rest = [] ∧ s.flags.spaced ∧ OpenComment st.rest
  back : ∀ a s, r.run st.closed = some (a, s) → 2 ≤ s.rest.length →
    (∃ st', r.run st = some (a, st') ∧ s = st'.closed) ∨ stuck a s

/-- At every state, the reader keeps to its text, up to results that are `stuck`. -/
def ConfinedUpTo (stuck : α → ReaderState → Prop) (r : Reader α) : Prop :=
  ∀ st, ConfinedAt stuck r st

/-- The reader keeps to its text. -/
abbrev Confined (r : Reader α) : Prop := ConfinedUpTo (fun _ _ ↦ False) r

theorem Confined.upTo (h : Confined r) : ConfinedUpTo stuck r := fun st ↦
  { h st with back := fun a s hrun hle ↦ .inl (((h st).back a s hrun hle).resolve_right id) }

/-- The reader takes at least `k` characters. -/
def Takes (k : Nat) (r : Reader α) : Prop :=
  ∀ st a s, r.run st = some (a, s) → s.rest.length + k ≤ st.rest.length

theorem ConfinedUpTo.takes_zero (h : ConfinedUpTo stuck r) : Takes 0 r :=
  fun st a s hrun ↦ ((h st).rest_suffix a s hrun).length_le

theorem Takes.bind (hr : Takes k r) (hf : ∀ x, Takes l (f x)) : Takes (k + l) (r >>= f) := by
  intro st b s hrun
  obtain ⟨a, st', ha, hb⟩ := run_bind_eq_some_iff.1 hrun
  have := hr st a st' ha
  have := hf a st' b s hb
  omega

theorem Takes.bind_left (hr : Takes k r) (hf : ∀ x, Takes 0 (f x)) : Takes k (r >>= f) :=
  hr.bind hf

theorem Takes.bind_right (hr : Takes 0 r) (hf : ∀ x, Takes l (f x)) : Takes l (r >>= f) := by
  have h := hr.bind hf
  rwa [Nat.zero_add] at h

theorem takes_pure (a : α) : Takes 0 (pure a : Reader α) := by
  rintro st _ _ ⟨⟩
  exact Nat.le_refl _

theorem takes_failure : Takes k (failure : Reader α) := fun _ _ _ ↦ nofun

theorem Takes.ite {p : Prop} [Decidable p] (h : p → Takes k r) (h' : ¬p → Takes k r') :
    Takes k (if p then r else r') := by
  split
  · exact h ‹_›
  · exact h' ‹_›

theorem Takes.discard (h : Takes k r) : Takes k (discard r) := by
  intro st a s hrun
  obtain ⟨b, st', hb, ⟨⟩⟩ := (run_bind_eq_some_iff (f := fun _ ↦ Pure.pure ())).1 hrun
  exact h st b s hb

theorem Takes.mono (h : Takes k r) (hle : l ≤ k) : Takes l r := by
  intro st a s hrun
  have := h st a s hrun
  omega

/-- What matters of a reader are its runs on `st` and on `st.closed`. -/
theorem ConfinedAt.congr (h : ConfinedAt stuck r st) (hown : r'.run st = r.run st)
    (hclosed : r'.run st.closed = r.run st.closed) : ConfinedAt stuck r' st where
  rest_suffix := by simpa only [hown] using h.rest_suffix
  flags_eq := by simpa only [hown] using h.flags_eq
  onward := by simpa only [hown, hclosed] using h.onward
  back := by simpa only [hown, hclosed] using h.back

theorem Takes.run_eq_none (h : Takes 1 r) (hrest : st.rest = []) : r.run st = none := by
  refine Option.eq_none_iff_forall_ne_some.2 fun ⟨a, s⟩ hrun ↦ ?_
  have := h st a s hrun
  simp [hrest] at this

/-- A reader that fails on the text, and of the longer one reads nothing but what is `stuck`. -/
theorem ConfinedAt.of_stuck (hown : r.run st = none)
    (hclosed : ∀ a s, r.run st.closed = some (a, s) → 2 ≤ s.rest.length → stuck a s) :
    ConfinedAt stuck r st where
  rest_suffix := by simp [hown]
  flags_eq := by simp [hown]
  onward := by simp [hown]
  back a s hrun hle := .inr (hclosed a s hrun hle)

/-- A reader that fails on the text, and takes of the longer one what follows it. -/
theorem ConfinedAt.of_fails (hown : r.run st = none)
    (hclosed : ∀ a s, r.run st.closed = some (a, s) → s.rest.length < 2) :
    ConfinedAt stuck r st :=
  .of_stuck hown fun a s hrun hle ↦ absurd hle (Nat.not_le.2 (hclosed a s hrun))

/-- A reader that reads the same of `st` and of `st.closed`. -/
theorem ConfinedAt.of_runs (hown : r.run st = some (a, s))
    (hclosed : r.run st.closed = some (a, s.closed)) (hsuffix : s.rest <:+ st.rest)
    (hflags : s.flags = st.flags) : ConfinedAt stuck r st where
  rest_suffix b t h := by
    cases hown.symm.trans h
    exact hsuffix
  flags_eq _ b t h := by
    cases hown.symm.trans h
    exact hflags
  onward b t h := by
    cases hown.symm.trans h
    exact .inl hclosed
  back b t h _ := by
    cases hclosed.symm.trans h
    exact .inl ⟨s, hown, rfl⟩

/-- At a state, the reader reads the same of both texts, or of the longer one up to its end. -/
def ExactAt (r : Reader α) (st : ReaderState) : Prop :=
  (∃ a s, r.run st = some (a, s) ∧ r.run st.closed = some (a, s.closed) ∧ s.rest <:+ st.rest ∧
      s.flags = st.flags) ∨
    r.run st = none ∧ ∀ a s, r.run st.closed = some (a, s) → s.rest.length < 2

/-- The reader reads the same of both texts. -/
def Exact (r : Reader α) : Prop := ∀ st, ExactAt r st

theorem ExactAt.of_runs (hown : r.run st = some (a, s))
    (hclosed : r.run st.closed = some (a, s.closed)) (hsuffix : s.rest <:+ st.rest)
    (hflags : s.flags = st.flags) : ExactAt r st :=
  .inl ⟨a, s, hown, hclosed, hsuffix, hflags⟩

theorem ExactAt.of_fails (hown : r.run st = none)
    (hclosed : ∀ a s, r.run st.closed = some (a, s) → s.rest.length < 2) : ExactAt r st :=
  .inr ⟨hown, hclosed⟩

theorem Takes.exactAt (h : Takes 1 r) (hrest : st.rest = []) : ExactAt r st := by
  refine .of_fails (h.run_eq_none hrest) fun a s hrun ↦ ?_
  have := h st.closed a s hrun
  simp [hrest] at this
  omega

theorem Exact.confined (h : Exact r) : ConfinedUpTo stuck r := fun st ↦
  (h st).elim (fun ⟨_, _, hown, hclosed, hsuffix, hflags⟩ ↦ .of_runs hown hclosed hsuffix hflags)
    fun ⟨hown, hclosed⟩ ↦ .of_fails hown hclosed

theorem Exact.takes_zero (h : Exact r) : Takes 0 r := by
  have hconfined : Confined r := h.confined
  exact hconfined.takes_zero

theorem Exact.run_closed (h : Exact r) (hrun : r.run st = some (a, s)) :
    r.run st.closed = some (a, s.closed) := by
  rcases h st with ⟨b, t, hown, hclosed, -⟩ | ⟨hown, -⟩
  · cases hown.symm.trans hrun
    exact hclosed
  · cases hown.symm.trans hrun

theorem Exact.pure (a : α) : Exact (pure a : Reader α) :=
  fun _ ↦ .of_runs rfl rfl List.suffix_rfl rfl

theorem Exact.failure : Exact (failure : Reader α) := fun _ ↦ .of_fails rfl fun _ _ ↦ nofun

theorem Exact.lift (o : Option α) : Exact (liftM o : Reader α) := by
  cases o with
  | none => exact .failure
  | some a => exact .pure a

theorem Exact.discard (hr : Exact r) : Exact (discard r) := by
  intro st
  rcases hr st with ⟨a, s, hown, hclosed, hrest⟩ | ⟨hown, hclosed⟩
  · exact .inl ⟨(), s, run_discard_of_run_eq hown, run_discard_of_run_eq hclosed, hrest⟩
  · refine .of_fails ?_ fun _ s hrun ↦ ?_
    · change (r >>= fun _ ↦ Pure.pure ()).run st = none
      rw [StateT.run_bind, hown]
      rfl
    · obtain ⟨a, st', ha, ⟨⟩⟩ := (run_bind_eq_some_iff (f := fun _ ↦ Pure.pure ())).1 hrun
      exact hclosed a s ha

theorem Exact.ite {p : Prop} [Decidable p] (h : p → Exact r) (h' : ¬p → Exact r') :
    Exact (if p then r else r') := by
  split
  · exact h ‹_›
  · exact h' ‹_›

theorem Exact.bind (hr : Exact r) (hf : ∀ a, Exact (f a)) : Exact (r >>= f) := by
  intro st
  rcases hr st with ⟨a, st', hown, hclosed, hsuffix, hflags⟩ | ⟨hown, hclosed⟩
  · rw [ExactAt, run_bind_of_run_eq hown, run_bind_of_run_eq hclosed]
    exact (hf a st').imp_left fun ⟨b, s, hown', hclosed', hsuffix', hflags'⟩ ↦
      ⟨b, s, hown', hclosed', hsuffix'.trans hsuffix, hflags'.trans hflags⟩
  · refine .of_fails ?_ fun b s hrun ↦ ?_
    · rw [StateT.run_bind, hown]
      rfl
    · obtain ⟨a, st', ha, hb⟩ := run_bind_eq_some_iff.1 hrun
      have hlt := hclosed a st' ha
      have hconfined : Confined (f a) := (hf a).confined
      have hle := ((hconfined st').rest_suffix b s hb).length_le
      omega

/-- What looks at the state, but not at what follows the text. -/
theorem Exact.get_bind {f : ReaderState → Reader α} (hf : ∀ st, Exact (f st))
    (hclosed : ∀ st, (f st.closed).run st.closed = (f st).run st.closed) : Exact (get >>= f) := by
  intro st
  have hrun : (get >>= f).run st = (f st).run st := rfl
  have hrun' : (get >>= f).run st.closed = (f st).run st.closed := hclosed st
  rw [ExactAt, hrun, hrun']
  exact hf st st

theorem ConfinedUpTo.pure (a : α) : ConfinedUpTo stuck (pure a : Reader α) :=
  (Exact.pure a).confined

theorem ConfinedUpTo.failure : ConfinedUpTo stuck (failure : Reader α) := Exact.failure.confined

theorem ConfinedUpTo.lift (o : Option α) : ConfinedUpTo stuck (liftM o : Reader α) :=
  (Exact.lift o).confined

theorem ConfinedUpTo.ite {p : Prop} [Decidable p] (h : p → ConfinedUpTo stuck r)
    (h' : ¬p → ConfinedUpTo stuck r') : ConfinedUpTo stuck (if p then r else r') := by
  split
  · exact h ‹_›
  · exact h' ‹_›

/-- A reader and what is read after it; where the first one is `stuck`, so is the second. -/
theorem ConfinedAt.bind (hr : ConfinedAt stuck r st) (hf : ∀ a, ConfinedUpTo stuck' (f a))
    (hstuck : ∀ a st', stuck a st' → ∀ b s, (f a).run st' = some (b, s) → stuck' b s) :
    ConfinedAt stuck' (r >>= f) st where
  rest_suffix b s hrun := by
    obtain ⟨a, st', ha, hb⟩ := run_bind_eq_some_iff.1 hrun
    exact ((hf a st').rest_suffix b s hb).trans (hr.rest_suffix a st' ha)
  flags_eq hrest b s hrun := by
    obtain ⟨a, st', ha, hb⟩ := run_bind_eq_some_iff.1 hrun
    have hrest' : st'.rest = [] := List.suffix_nil.1 (hrest ▸ hr.rest_suffix a st' ha)
    exact ((hf a st').flags_eq hrest' b s hb).trans (hr.flags_eq hrest a st' ha)
  onward b s hrun := by
    obtain ⟨a, st', ha, hb⟩ := run_bind_eq_some_iff.1 hrun
    have hsuffix := hr.rest_suffix a st' ha
    rcases hr.onward a st' ha with hclosed | ⟨hrest, hspaced, hopen⟩
    · refine ((hf a st').onward b s hb).imp (fun h ↦ ?_) fun ⟨hs, hflags, hopen⟩ ↦
        ⟨hs, hflags, hopen.of_suffix hsuffix⟩
      exact run_bind_eq_some_iff.2 ⟨a, st'.closed, hclosed, h⟩
    · refine .inr ⟨List.suffix_nil.1 (hrest ▸ (hf a st').rest_suffix b s hb), ?_, hopen⟩
      rwa [(hf a st').flags_eq hrest b s hb]
  back b s hrun hle := by
    obtain ⟨a, st', ha, hb⟩ := run_bind_eq_some_iff.1 hrun
    have hle' : 2 ≤ st'.rest.length := Nat.le_trans hle ((hf a st').rest_suffix b s hb).length_le
    rcases hr.back a st' ha hle' with ⟨st₀, hown, rfl⟩ | hs
    · refine ((hf a st₀).back b s hb hle).imp_left fun ⟨st₁, hrun', hs⟩ ↦ ⟨st₁, ?_, hs⟩
      exact run_bind_eq_some_iff.2 ⟨a, st₀, hown, hrun'⟩
    · exact .inr (hstuck a st' hs b s hb)

theorem ConfinedUpTo.bind (hr : ConfinedUpTo stuck r) (hf : ∀ a, ConfinedUpTo stuck' (f a))
    (hstuck : ∀ a st', stuck a st' → ∀ b s, (f a).run st' = some (b, s) → stuck' b s) :
    ConfinedUpTo stuck' (r >>= f) :=
  fun st ↦ (hr st).bind hf hstuck

/-- A `Confined` reader, and what is read after it. -/
theorem Confined.bind (hr : Confined r) (hf : ∀ a, ConfinedUpTo stuck' (f a)) :
    ConfinedUpTo stuck' (r >>= f) :=
  ConfinedUpTo.bind hr hf fun _ _ ↦ False.elim

/-- A reader after which the flags are set to `g a`, and what is read under these flags. Where the
first one has gone to the end of the text with a comment open, the second one has to need more. -/
theorem Confined.bind_setFlags (g : α → Flags) (hr : Confined r) (htakes : Takes 1 r)
    (hf : ∀ a, ConfinedUpTo stuck' (f a))
    (hend : ∀ st a s, r.run st = some (a, s) →
      r.run st.closed = some (a, s.closed) ∨ Takes 1 (f a)) :
    ConfinedUpTo stuck' (r >>= fun a ↦
      modify (fun st ↦ { st with flags := g a }) >>= fun _ ↦ f a) := by
  have hrun {st : ReaderState} {b : β} {s : ReaderState} :
      (r >>= fun a ↦ modify (fun st ↦ { st with flags := g a }) >>= fun _ ↦ f a).run st =
          some (b, s) ↔
        ∃ a st', r.run st = some (a, st') ∧ (f a).run { st' with flags := g a } = some (b, s) :=
    run_bind_eq_some_iff
  intro st
  constructor
  · intro b s h
    obtain ⟨a, st', ha, hb⟩ := hrun.1 h
    exact ((hf a _).rest_suffix b s hb).trans ((hr st).rest_suffix a st' ha)
  · intro hrest b s h
    obtain ⟨a, st', ha, -⟩ := hrun.1 h
    cases (htakes.run_eq_none hrest).symm.trans ha
  · intro b s h
    obtain ⟨a, st', ha, hb⟩ := hrun.1 h
    have hsuffix := (hr st).rest_suffix a st' ha
    have honward (hclosed : r.run st.closed = some (a, st'.closed)) :
        (r >>= fun a ↦ modify (fun st ↦ { st with flags := g a }) >>= fun _ ↦ f a).run st.closed =
            some (b, s.closed) ∨ s.rest = [] ∧ s.flags.spaced ∧ OpenComment st.rest :=
      ((hf a _).onward b s hb).imp (fun h ↦ hrun.2 ⟨a, st'.closed, hclosed, h⟩)
        fun ⟨hs, hflags, hopen⟩ ↦ ⟨hs, hflags, hopen.of_suffix hsuffix⟩
    rcases hend st a st' ha with hclosed | hneeds
    · exact honward hclosed
    · refine ((hr st).onward a st' ha).elim honward fun ⟨hrest, _⟩ ↦ ?_
      have hfails : (f a).run { st' with flags := g a } = none := hneeds.run_eq_none hrest
      cases hfails.symm.trans hb
  · intro b s h hle
    obtain ⟨a, st', ha, hb⟩ := hrun.1 h
    have hle' : 2 ≤ st'.rest.length := Nat.le_trans hle ((hf a _).rest_suffix b s hb).length_le
    rcases (hr st).back a st' ha hle' with ⟨st₀, hown, rfl⟩ | hs
    · refine ((hf a { st₀ with flags := g a }).back b s hb hle).imp_left fun ⟨st₁, hrun', hs⟩ ↦
        ⟨st₁, hrun.2 ⟨a, st₀, hown, hrun'⟩, hs⟩
    · exact hs.elim

/-- A reader that comes first if `p` holds. -/
theorem Confined.when {p : Prop} [Decidable p] {r : Reader Unit} {f : Unit → Reader α}
    (hr : Confined r) (hf : ∀ u, ConfinedUpTo stuck (f u)) :
    ConfinedUpTo stuck (if p then r >>= f else f ()) :=
  .ite (fun _ ↦ hr.bind hf) fun _ ↦ hf ()

theorem Confined.discard (hr : Confined r) : Confined (discard r) :=
  fun st ↦ (hr.bind fun _ ↦ .pure () : Confined (r >>= fun _ ↦ Pure.pure ())) st

/-- What looks at the state, but not at what follows the text. -/
theorem ConfinedUpTo.get_bind {f : ReaderState → Reader α} (hf : ∀ st, ConfinedUpTo stuck (f st))
    (hclosed : ∀ st, (f st.closed).run st.closed = (f st).run st.closed) :
    ConfinedUpTo stuck (get >>= f) :=
  fun st ↦ (hf st st).congr rfl (hclosed st)

/-- What looks at the characters that come next, but not beyond the text; at its end it fails. -/
theorem ConfinedUpTo.rest_bind {f : List Char → Reader α} (hf : ∀ cs, ConfinedUpTo stuck (f cs))
    (hcons : ∀ c cs, f (c :: cs ++ [')', '$']) = f (c :: cs)) (hnil : ∀ st, (f []).run st = none)
    (htakes : Takes 1 (f [')', '$'])) : ConfinedUpTo stuck (get >>= fun st ↦ f st.rest) := by
  intro st
  rcases hrest : st.rest with _ | ⟨c, cs⟩
  · refine .of_fails ?_ fun a s hrun ↦ ?_
    · change (f st.rest).run st = none
      rw [hrest]
      exact hnil st
    · change (f (st.rest ++ [')', '$'])).run st.closed = _ at hrun
      rw [hrest] at hrun
      have := htakes st.closed a s hrun
      simp [hrest] at this
      omega
  · refine (hf (c :: cs) st).congr ?_ ?_
    · change (f st.rest).run st = _
      rw [hrest]
    · change (f (st.rest ++ [')', '$'])).run st.closed = _
      rw [hrest, hcons]

/-- What `peek` shows, with the end of the text taken for a `')'`. -/
theorem ConfinedUpTo.peek_bind {f : Option Char → Reader α} (hf : ∀ c, ConfinedUpTo stuck (f c))
    (hend : f none = f (some ')')) : ConfinedUpTo stuck (peek >>= f) := by
  intro st
  refine (hf st.rest.head? st).congr rfl ?_
  change (f (st.rest ++ [')', '$']).head?).run st.closed = _
  cases st.rest with
  | nil => exact congrArg (fun r ↦ StateT.run r st.closed) hend.symm
  | cons c cs => rfl

/-- What looks at the next character, and needs one. -/
theorem ConfinedUpTo.peek_bind_of_fails {f : Option Char → Reader α}
    (hf : ∀ c, ConfinedUpTo stuck (f (some c)))
    (hnone : ∀ st, st.rest = [] → (f none).run st = none) (htakes : Takes 1 (f (some ')'))) :
    ConfinedUpTo stuck (peek >>= f) := by
  intro st
  rcases hrest : st.rest with _ | ⟨c, cs⟩
  · refine .of_fails ?_ fun a s hrun ↦ ?_
    · change (f st.rest.head?).run st = none
      rw [hrest]
      exact hnone st hrest
    · change (f (st.rest ++ [')', '$']).head?).run st.closed = _ at hrun
      rw [hrest] at hrun
      have := htakes st.closed a s hrun
      simp [hrest] at this
      omega
  · refine (hf c st).congr ?_ ?_
    · change (f st.rest.head?).run st = _
      rw [hrest]
      rfl
    · change (f (st.rest ++ [')', '$']).head?).run st.closed = _
      rw [hrest]
      rfl

end AssessmentItem.Pattern
