import AssessmentItem.Proofs.Pattern.Groups

/-!
# Enough rounds

The readers of classes and of alternatives make so many rounds at most.  Every round takes something
of the text or goes into a group that has to be closed, so what they read with some number of rounds
they read with any number that is greater than that of the characters they take.

## Main definitions

* `Pattern.Carries` : what one reader reads of few characters another one reads.

## Main results

* `Pattern.carries_body` : the alternatives with some number of rounds and with another.
* `Pattern.run_body_eq` : where there are more rounds than characters, the rounds do not matter.
-/

namespace AssessmentItem.Pattern

variable {α β : Type} {r r' : Reader α} {f f' : α → Reader β} {st s : ReaderState} {i j k n m : Nat}

/-- What `r` reads with less than `k` characters, `r'` reads as well. -/
def Carries (k : Nat) (r r' : Reader α) : Prop :=
  ∀ st a s, r.run st = some (a, s) → st.rest.length < s.rest.length + k → r'.run st = some (a, s)

theorem takes_peek : Takes 0 peek := by
  rintro st _ _ ⟨⟩
  exact Nat.le_refl _

theorem takes_get : Takes 0 (get : Reader ReaderState) := by
  rintro st _ _ ⟨⟩
  exact Nat.le_refl _

theorem takes_setFlags (flags : Flags) :
    Takes 0 (modify fun st ↦ { st with flags := flags } : Reader Unit) := by
  rintro st _ _ ⟨⟩
  exact Nat.le_refl _

theorem Takes.zero (h : Takes k r) : Takes 0 r := h.mono (Nat.zero_le k)

theorem Carries.refl (k : Nat) (r : Reader α) : Carries k r r := fun _ _ _ h _ ↦ h

theorem Carries.mono (h : Carries k r r') (hle : i ≤ k) : Carries i r r' :=
  fun st a s hrun hlt ↦ h st a s hrun (by omega)

/-- A reader that takes `k` characters reads nothing with less. -/
theorem Takes.carries (h : Takes k r) : Carries k r r' := by
  intro st a s hrun hlt
  have := h st a s hrun
  omega

theorem Carries.bind (h : Carries (k - i) r r') (hr : Takes j r) (hf : ∀ a, Takes i (f a))
    (h' : ∀ a, Carries (k - j) (f a) (f' a)) : Carries k (r >>= f) (r' >>= f') := by
  intro st b s hrun hlt
  obtain ⟨a, st', ha, hb⟩ := run_bind_eq_some_iff.1 hrun
  have hle := hr st a st' ha
  have hle' := hf a st' b s hb
  exact run_bind_eq_some_iff.2 ⟨a, st', h st a st' ha (by omega), h' a st' b s hb (by omega)⟩

/-- The same reader comes first. -/
theorem Carries.bind_right (hr : Takes j r) (h : ∀ a, Carries (k - j) (f a) (f' a)) :
    Carries k (r >>= f) (r >>= f') := by
  intro st b s hrun hlt
  obtain ⟨a, st', ha, hb⟩ := run_bind_eq_some_iff.1 hrun
  have hle := hr st a st' ha
  exact run_bind_eq_some_iff.2 ⟨a, st', ha, h a st' b s hb (by omega)⟩

theorem Carries.when {p : Prop} [Decidable p] {r : Reader Unit} {f f' : Unit → Reader α}
    (hr : Takes 0 r) (h : ∀ u, Carries k (f u) (f' u)) :
    Carries k (if p then r >>= f else f ()) (if p then r >>= f' else f' ()) := by
  split
  · exact .bind_right hr h
  · exact h ()

/-! ### Classes -/

/-- The readers of classes with `n` rounds, and with `m`. -/
structure CarriesClasses (n m : Nat) : Prop where
  bracketClass : Carries (m + 1) (bracketClass n) (bracketClass m)
  classItems : ∀ pending items depth,
    Carries (m + 1) (classItems n pending items depth) (classItems m pending items depth)

theorem CarriesClasses.restOfClass (h : CarriesClasses n m) :
    Carries (m + 1) (restOfClass n) (restOfClass m) := by
  have hspaced := confined_takeSpaced.discard.takes_zero
  refine .bind_right confined_skipBlanks.takes_zero fun _ ↦ .bind_right takes_peek fun _ ↦
    .when hspaced fun _ ↦ .bind_right (confined_takeAll rfl).takes_zero fun _ ↦
    .bind_right takes_peek fun _ ↦ .when hspaced fun _ ↦ .bind_right takes_peek fun _ ↦
    .when takes_failure fun _ ↦ ?_
  refine .bind (i := 0) (h.classItems none _ 0) ((confinedClasses n).classItems none _ 0).takes_zero
    (fun _ ↦ ?_) fun _ ↦ .refl _ _
  exact Takes.bind_right (fun _ _ _ ↦ by rintro ⟨⟩; exact Nat.le_refl _) fun _ ↦ takes_pure _

theorem CarriesClasses.itemsAt (h : CarriesClasses n m)
    (pending : Option (SetOperation × Unicode.CharSet)) (items : List Unicode.CharSet) (depth : Nat)
    (flags : Flags) (cs : List Char) :
    Carries (m + 2) (itemsAt n pending items depth flags cs)
      (itemsAt m pending items depth flags cs) := by
  have htake := takes_take.discard
  have hoperation (op : SetOperation) : Carries (m + 2)
      (afterOperation n pending items depth flags op)
      (afterOperation m pending items depth flags op) :=
    .bind_right htake fun _ ↦ .bind_right (htake.mono (Nat.zero_le 1)) fun _ ↦ h.classItems _ _ _
  unfold Pattern.itemsAt
  dsimp only
  split
  · exact .refl _ _
  · exact .refl _ _
  · exact hoperation .inter
  · exact hoperation .diff
  · exact hoperation .symmDiff
  · intro st a s hrun hlt
    obtain ⟨o, st', hascii, hrun⟩ := run_bind_eq_some_iff.1 hrun
    refine run_bind_eq_some_iff.2 ⟨o, st', hascii, ?_⟩
    cases o with
    | none =>
      have hle := confined_asciiClass.takes_zero st _ st' hascii
      refine Carries.bind (i := 1) (j := 1) (k := m + 2) h.bracketClass
        (confinedClasses n).takes_bracketClass (fun x ↦ (confinedClasses n).takes_classItems _ _ _)
        (fun x ↦ h.classItems _ _ _) st' a s hrun (by omega)
    | some set =>
      have hlt' := length_lt_of_run_asciiClass hascii
      exact h.classItems _ _ _ st' a s hrun (by omega)
  · exact .bind_right takes_classItem fun _ ↦ h.classItems _ _ _

theorem carriesClasses (n m : Nat) : CarriesClasses n m := by
  induction n generalizing m with
  | zero => exact ⟨takes_failure.carries, fun _ _ _ ↦ takes_failure.carries⟩
  | succ n ih =>
    have hconfined := confinedClasses (n + 1)
    cases m with
    | zero =>
      exact ⟨hconfined.takes_bracketClass.carries,
        fun pending items depth ↦ (hconfined.takes_classItems pending items depth).carries⟩
    | succ m =>
      constructor
      · rw [bracketClass_succ, bracketClass_succ]
        exact .bind_right (takes_expect '[') fun _ ↦ (ih m).restOfClass
      · intro pending items depth
        rw [classItems_succ, classItems_succ]
        refine .bind_right confined_skipBlanks.takes_zero fun _ ↦ ?_
        exact fun st a s ↦ (ih m).itemsAt pending items depth st.flags st.rest st a s

/-! ### Alternatives -/

theorem carries_body (n m : Nat) (branches : List Sized) (items : List Item) :
    Carries m (body n branches items) (body m branches items) := by
  induction n generalizing m branches items with
  | zero => exact takes_failure.carries
  | succ n ih =>
    cases m with
    | zero => exact (confined_body _ _ _).takes_zero.carries
    | succ m =>
      rw [body, body]
      refine .bind_right confined_skipBlanks.takes_zero fun _ ↦ .bind_right takes_get fun st ↦
        .bind_right takes_peek fun c ↦ ?_
      have hrepeat (items : List Item) (least : Nat) (most : Option Nat) :
          Carries m (repeatLast items least most >>= fun items ↦ body n branches items)
            (repeatLast items least most >>= fun items ↦ body m branches items) :=
        .bind_right (exact_repeatLast items least most).takes_zero fun _ ↦ ih m _ _
      split
      · exact .refl _ _
      · exact .refl _ _
      · exact .bind_right takes_take.discard fun _ ↦ ih m _ _
      · refine .bind_right takes_groupHead fun head ↦ ?_
        cases head with
        | flags inner => exact .bind_right (takes_setFlags inner) fun _ ↦ ih m _ _
        | group inner =>
          -- The rounds of the group and those of what follows it are counted apart.
          refine .bind_right (takes_setFlags inner) fun _ ↦ .bind (i := 0) (ih m [] [])
            (confined_body n [] []).takes_zero (fun _ ↦ ?_) fun _ ↦
              .bind_right (takes_expect ')').zero fun _ ↦
              .bind_right (takes_setFlags st.flags) fun _ ↦ ih m _ _
          exact (takes_expect ')').zero.bind_right fun _ ↦ (takes_setFlags st.flags).bind_right
            fun _ ↦ (confined_body n _ _).takes_zero
      · exact .bind (i := 0) (carriesClasses n m).bracketClass
          (confinedClasses n).takes_bracketClass
          (fun _ ↦ (Exact.lift _).takes_zero.bind_right fun _ ↦ (confined_body n _ _).takes_zero)
          fun _ ↦ .bind_right (Exact.lift _).takes_zero fun _ ↦ ih m _ _
      · exact .bind_right takes_take.discard fun _ ↦ hrepeat _ _ _
      · exact .bind_right takes_take.discard fun _ ↦ hrepeat _ _ _
      · exact .bind_right takes_take.discard fun _ ↦ hrepeat _ _ _
      · exact .bind_right takes_bounds fun _ ↦ hrepeat _ _ _
      · refine .bind_right takes_take fun c ↦ ?_
        have hpiece (piece : Piece) :
            Carries m (ofPiece st.flags piece >>= fun p ↦ body n branches (some ⟨p, 0⟩ :: items))
              (ofPiece st.flags piece >>= fun p ↦ body m branches (some ⟨p, 0⟩ :: items)) :=
          .bind_right (exact_ofPiece st.flags piece).takes_zero fun _ ↦ ih m _ _
        dsimp only
        split
        · exact .bind_right confined_escape.takes_zero hpiece
        all_goals exact .bind_right (takes_pure _) hpiece

/-- Where there are more rounds than characters, `body` does not depend on them. -/
theorem run_body_eq {branches : List Sized} {items : List Item} (hn : st.rest.length < n)
    (hm : st.rest.length < m) :
    (body n branches items).run st = (body m branches items).run st := by
  refine Option.ext fun ⟨a, s⟩ ↦ ⟨fun h ↦ ?_, fun h ↦ ?_⟩
  · exact carries_body n m branches items st a s h (by omega)
  · exact carries_body m n branches items st a s h (by omega)

end AssessmentItem.Pattern
