import AssessmentItem.Proofs.Pattern.Confined

/-!
# Characters, numbers and escapes keep to their text

Characters, numbers and escapes are read from the front of a text as they are read from it with a
closing parenthesis and a dollar sign after it.  The one exception is a word boundary with an
opening brace at the end of the text: the text alone is refused there, and of the longer one the
boundary is read.  But then the brace is still to be read, and no repetition begins with it.

## Main definitions

* `Pattern.ReaderState.skipped` : a state after blanks and comments.
* `Pattern.NoBounds` : an opening brace with which no repetition begins.
* `Pattern.StuckPiece` : an assertion before such a brace.

## Main results

* `Pattern.confined_takeAll_bind` : characters with a property, and what is read after them.
* `Pattern.confined_boundaryKind` : what is read of a word boundary, up to such a brace.
* `Pattern.confined_escape` : what a backslash begins.
-/

namespace AssessmentItem.Pattern

variable {α : Type} {stuck : α → ReaderState → Prop} {st s : ReaderState} {cs : List Char}

/-! ### Characters -/

theorem takes_take : Takes 1 take := by
  intro st c s hrun
  obtain ⟨cs, hrest, rfl⟩ := run_take_eq_some_iff.1 hrun
  rw [hrest]
  exact Nat.le_refl _

theorem exact_take : Exact take := by
  intro st
  rcases hrest : st.rest with _ | ⟨c, cs⟩
  · exact takes_take.exactAt hrest
  · refine .of_runs (run_take_eq_some_iff.2 ⟨cs, hrest, rfl⟩)
      (run_take_eq_some_iff.2 ⟨cs ++ [')', '$'], ?_, rfl⟩) (hrest ▸ List.suffix_cons c cs) rfl
    rw [ReaderState.rest_closed, hrest]
    rfl

theorem confined_take : Confined take := exact_take.confined

/-- The state after the blanks and comments that come next, where `spaced` passes over these. -/
def ReaderState.skipped (st : ReaderState) : ReaderState :=
  { st with rest := if st.flags.spaced then afterBlanks false st.rest else st.rest }

theorem run_skipBlanks (st : ReaderState) : skipBlanks.run st = some ((), st.skipped) := by
  refine congrArg (fun s ↦ some ((), s)) ?_
  dsimp only [ReaderState.skipped]
  split <;> rfl

theorem skipped_suffix (st : ReaderState) : st.skipped.rest <:+ st.rest := by
  rw [ReaderState.skipped]
  split
  · exact afterBlanks_suffix false st.rest
  · exact List.suffix_rfl

/-- Blanks are passed over as before, unless a comment stands open at the end. -/
theorem skipped_closed (st : ReaderState) :
    st.closed.skipped = st.skipped.closed ∨
      st.skipped.rest = [] ∧ st.closed.skipped.rest = [] ∧ st.flags.spaced ∧
        OpenComment st.rest := by
  by_cases hspaced : st.flags.spaced
  · simp only [ReaderState.skipped, ReaderState.closed, hspaced, if_true]
    refine (afterBlanks_append false st.rest).imp (fun h ↦ by rw [h]) fun ⟨hown, hclosed, hopen⟩ ↦
      ⟨hown, hclosed, trivial, hopen.resolve_left fun h ↦ nomatch h.1⟩
  · exact .inl (by simp [ReaderState.skipped, ReaderState.closed, hspaced])

theorem confined_skipBlanks : Confined skipBlanks := by
  intro st
  have hown := run_skipBlanks st
  have hclosed := run_skipBlanks st.closed
  rcases skipped_closed st with hskipped | ⟨hnil, hnil', hopen⟩
  · exact .of_runs hown (hskipped ▸ hclosed) (skipped_suffix st) rfl
  · constructor
    · intro a s h
      cases hown.symm.trans h
      exact skipped_suffix st
    · intro _ a s h
      cases hown.symm.trans h
      rfl
    · intro a s h
      cases hown.symm.trans h
      exact .inr ⟨hnil, hopen⟩
    · intro a s h hle
      cases hclosed.symm.trans h
      rw [hnil'] at hle
      cases hle

theorem confined_takeSpaced : Confined takeSpaced :=
  Confined.bind confined_take fun c ↦ confined_skipBlanks.bind fun _ ↦ .pure c

theorem takes_takeSpaced : Takes 1 takeSpaced :=
  takes_take.bind_left fun c ↦ Takes.bind_left confined_skipBlanks.takes_zero fun _ ↦ takes_pure c

theorem run_expect_eq_some_iff {c : Char} {u : Unit} :
    (expect c).run st = some (u, s) ↔ ∃ cs, st.rest = c :: cs ∧ s = { st with rest := cs } := by
  constructor
  · intro h
    obtain ⟨d, st', htake, h⟩ := run_bind_eq_some_iff.1 h
    obtain ⟨cs, hrest, rfl⟩ := run_take_eq_some_iff.1 htake
    by_cases hd : d = c
    · subst hd
      rw [if_neg (by simp)] at h
      cases h
      exact ⟨cs, hrest, rfl⟩
    · rw [if_pos (by simpa using hd)] at h
      cases h
  · rintro ⟨cs, hrest, rfl⟩
    refine run_bind_eq_some_iff.2 ⟨c, _, run_take_eq_some_iff.2 ⟨cs, hrest, rfl⟩, ?_⟩
    rw [if_neg (by simp)]
    rfl

theorem exact_expect (c : Char) : Exact (expect c) :=
  exact_take.bind fun _ ↦ .ite (fun _ ↦ .failure) fun _ ↦ .pure ()

theorem confined_expect (c : Char) : Confined (expect c) := (exact_expect c).confined

theorem takes_expect (c : Char) : Takes 1 (expect c) :=
  takes_take.bind_left fun _ ↦ .ite (fun _ ↦ takes_failure) fun _ ↦ takes_pure ()

theorem exists_eq_append_of_isPrefixOf {mark : List Char} (h : mark.isPrefixOf cs) :
    ∃ tail, cs = mark ++ tail := by
  obtain ⟨tail, htail⟩ := List.isPrefixOf_iff_prefix.1 h
  exact ⟨tail, htail.symm⟩

/-- Where `text` does not hold the `')'`, nothing that follows can begin it. -/
theorem isPrefixOf_append_of_notMem {text : List Char} (h : ')' ∉ text) (cs : List Char) :
    text.isPrefixOf (cs ++ [')', '$']) = text.isPrefixOf cs := by
  induction text generalizing cs with
  | nil => simp
  | cons c text ih =>
    rw [List.mem_cons, not_or] at h
    cases cs with
    | nil => simp [List.isPrefixOf, Ne.symm h.1]
    | cons d cs => simp [List.isPrefixOf, ih h.2]

theorem exact_takeText? {text : List Char} (h : ')' ∉ text) : Exact (takeText? text) := by
  intro st
  have hsame := isPrefixOf_append_of_notMem h st.rest
  cases hp : text.isPrefixOf st.rest with
  | true =>
    have hrun (st : ReaderState) (hp : text.isPrefixOf st.rest = true) :
        (takeText? text).run st = some (true, { st with rest := st.rest.drop text.length }) :=
      congrArg (fun r : Reader Bool ↦ r.run st) (if_pos hp)
    refine .of_runs (hrun st hp) ((hrun st.closed (hsame.trans hp)).trans ?_)
      (List.drop_suffix _ _) rfl
    obtain ⟨tail, htail⟩ := exists_eq_append_of_isPrefixOf hp
    rw [ReaderState.rest_closed, List.drop_append_of_le_length (by simp [htail])]
    rfl
  | false =>
    have hrun (st : ReaderState) (hp : text.isPrefixOf st.rest = false) :
        (takeText? text).run st = some (false, st) :=
      congrArg (fun r : Reader Bool ↦ r.run st) (if_neg (by simp [hp]))
    exact .of_runs (hrun st hp) (hrun st.closed (hsame.trans hp)) List.suffix_rfl rfl

/-! ### Characters that come for as long as they have a property -/

theorem takeWhileSpaced_succ_bind (holds : Char → Bool) (n : Nat) (k : List Char → Reader α) :
    takeWhileSpaced holds (n + 1) >>= k =
      peek >>= fun
        | some c =>
          if holds c then discard takeSpaced >>= fun _ ↦
            takeWhileSpaced holds n >>= fun cs ↦ k (c :: cs)
          else k []
        | none => k [] := by
  rw [takeWhileSpaced, bind_assoc]
  refine congrArg (peek >>= ·) (funext fun c? ↦ ?_)
  cases c? with
  | none => rfl
  | some c =>
    dsimp only
    split
    · simp only [bind_assoc, pure_bind]
    · rfl

/-- What is read after the characters for which `holds`. A `')'` that is one of them is taken where
the text ends, so what is read then has to need more. -/
theorem confined_takeWhileSpaced_bind {holds : Char → Bool} {k : List Char → Reader α}
    (hk : ∀ cs, ConfinedUpTo stuck (k cs))
    (hend : holds ')' → ∀ cs st, st.rest = [] → (k cs).run st = none) (n : Nat) :
    ConfinedUpTo stuck (takeWhileSpaced holds n >>= k) := by
  induction n generalizing k with
  | zero => exact hk []
  | succ n ih =>
    have htaken (c : Char) : ConfinedUpTo stuck (discard takeSpaced >>= fun _ ↦
        takeWhileSpaced holds n >>= fun cs ↦ k (c :: cs)) :=
      confined_takeSpaced.discard.bind fun _ ↦
        ih (fun cs ↦ hk (c :: cs)) fun h cs ↦ hend h (c :: cs)
    rw [takeWhileSpaced_succ_bind]
    cases hparen : holds ')' with
    | true =>
      refine .peek_bind_of_fails (fun c ↦ .ite (fun _ ↦ htaken c) fun _ ↦ hk []) (hend hparen []) ?_
      dsimp only
      rw [if_pos hparen]
      exact takes_takeSpaced.discard.bind fun _ ↦ (ih (fun cs ↦ hk (')' :: cs))
        fun h cs ↦ hend h (')' :: cs)).takes_zero
    | false =>
      refine .peek_bind (fun c ↦ ?_) ?_
      · cases c with
        | none => exact hk []
        | some c => exact .ite (fun _ ↦ htaken c) fun _ ↦ hk []
      · dsimp only
        rw [if_neg (by simp [hparen])]

/-- Where there are fewer characters than `n` and `m`, `takeWhileSpaced` does not depend on the
rounds. -/
theorem run_takeWhileSpaced_bind_eq {holds : Char → Bool} {n m : Nat} (hn : st.rest.length < n)
    (hm : st.rest.length < m) (k : List Char → Reader α) :
    (takeWhileSpaced holds n >>= k).run st = (takeWhileSpaced holds m >>= k).run st := by
  induction n generalizing st m k with
  | zero => cases hn
  | succ n ih =>
    obtain ⟨m, rfl⟩ : ∃ l, m = l + 1 := ⟨m - 1, by omega⟩
    rw [takeWhileSpaced_succ_bind, takeWhileSpaced_succ_bind]
    refine run_bind_congr fun c? st' hpeek ↦ ?_
    cases hpeek
    cases st.rest.head? with
    | none => rfl
    | some c =>
      dsimp only
      split
      · refine run_bind_congr fun _ s hs ↦ ?_
        have := takes_takeSpaced.discard st _ s hs
        exact ih (by omega) (by omega) _
      · rfl

theorem run_takeAll_bind_eq (holds : Char → Bool) (k : List Char → Reader α) {n : Nat}
    (hn : st.rest.length < n) :
    (takeAll holds >>= k).run st = (takeWhileSpaced holds n >>= k).run st :=
  run_takeWhileSpaced_bind_eq (Nat.lt_succ_self _) hn k

theorem confined_takeAll_bind {holds : Char → Bool} {k : List Char → Reader α}
    (hk : ∀ cs, ConfinedUpTo stuck (k cs))
    (hend : holds ')' → ∀ cs st, st.rest = [] → (k cs).run st = none) :
    ConfinedUpTo stuck (takeAll holds >>= k) := by
  intro st
  have hlt : st.rest.length < st.closed.rest.length + 1 := by
    rw [ReaderState.rest_closed, List.length_append]
    exact Nat.lt_succ_of_le (Nat.le_add_right _ _)
  exact (confined_takeWhileSpaced_bind hk hend (st.closed.rest.length + 1) st).congr
    (run_takeAll_bind_eq holds k hlt) rfl

theorem confined_takeAll {holds : Char → Bool} (hparen : holds ')' = false) :
    Confined (takeAll holds) := by
  have h : Confined (takeAll holds >>= pure) :=
    confined_takeAll_bind .pure fun h ↦ absurd (hparen.symm.trans h) nofun
  rwa [bind_pure] at h

/-- What is read up to a closing `mark` and after it. -/
theorem confined_takeUntil_bind (mark : Char) {k : List Char → Reader α}
    (hk : ∀ cs, ConfinedUpTo stuck (k cs)) :
    ConfinedUpTo stuck (takeAll (· != mark) >>= fun cs ↦ expect mark >>= fun _ ↦ k cs) := by
  refine confined_takeAll_bind (fun cs ↦ (confined_expect mark).bind fun _ ↦ hk cs) ?_
  intro _ cs st hrest
  exact ((takes_expect mark).bind fun _ ↦ (hk cs).takes_zero).run_eq_none hrest

/-! ### Numbers -/

theorem confined_count : Confined count := by
  refine (confined_takeAll (by decide)).discard.bind fun _ ↦
    (confined_takeAll (by decide)).bind fun digits ↦
    (confined_takeAll (by decide)).discard.bind fun _ ↦ .ite (fun _ ↦ ?_) fun _ ↦ .pure _
  exact Confined.bind .failure fun _ ↦ .pure _

theorem confined_hexDigits (n : Nat) : Confined (hexDigits n) := by
  induction n with
  | zero => exact .pure []
  | succ n ih =>
    refine .peek_bind (fun c ↦ ?_) rfl
    cases c with
    | none => exact .failure
    | some c =>
      refine .ite (fun _ ↦ Confined.bind .failure fun _ ↦ ?_) fun _ ↦ ?_ <;>
      exact confined_takeSpaced.discard.bind fun _ ↦ Confined.bind ih fun _ ↦ .pure _

theorem confined_ofHex (digits : List Char) : Confined (ofHex digits) := by
  refine Confined.bind (.lift _) fun n ↦ ?_
  by_cases h : n.isValidChar
  · rw [dif_pos h]
    exact .pure _
  · rw [dif_neg h]
    exact .failure

/-! ### Code points and properties -/

theorem confined_hexEscape (letter : Char) : Confined (hexEscape letter) := by
  have hliteral (digits : List Char) (byte : Bool) :
      Confined (ofHex digits >>= fun c ↦ pure (Piece.literal c byte)) :=
    (confined_ofHex digits).bind fun _ ↦ .pure _
  refine .peek_bind (fun c ↦ ?_) rfl
  split
  · exact confined_takeSpaced.discard.bind fun _ ↦ confined_takeUntil_bind '}' fun digits ↦
      confined_skipBlanks.bind fun _ ↦
        .ite (fun _ ↦ Confined.bind .failure fun _ ↦ hliteral _ _) fun _ ↦ hliteral _ _
  · exact (confined_hexDigits _).bind fun _ ↦ hliteral _ _

theorem confined_propertyEscape (negated : Bool) : Confined (propertyEscape negated) := by
  have hclass (flags : Flags) (name : List Char) : Confined (do
      let s ← (namedClass? name : Option Unicode.CharSet)
      return Piece.set (if negated then .compl (flags.fold s) else flags.fold s) : Reader Piece) :=
    Confined.bind (.lift _) fun _ ↦ .pure _
  refine .get_bind (fun st ↦ .ite (fun _ ↦ Confined.bind .failure fun _ ↦ ?_) fun _ ↦ ?_)
    fun _ ↦ rfl
  all_goals
    refine confined_takeSpaced.bind fun c ↦ ?_
    dsimp only
    split
    · exact confined_takeUntil_bind '}' fun name ↦ Confined.bind (.pure name) (hclass st.flags)
    · exact Confined.bind .failure (hclass st.flags)
    · exact Confined.bind (.pure _) (hclass st.flags)

/-! ### Word boundaries -/

theorem run_takeSpaced {c : Char} (h : st.rest = c :: cs) :
    takeSpaced.run st = some (c, ReaderState.skipped { st with rest := cs }) := by
  have htake : take.run st = some (c, { st with rest := cs }) :=
    run_take_eq_some_iff.2 ⟨cs, h, rfl⟩
  rw [takeSpaced, run_bind_of_run_eq htake]
  exact run_bind_of_run_eq (run_skipBlanks _)

theorem run_takeAll_of_not_holds {holds : Char → Bool} {c : Char} (h : st.rest = c :: cs)
    (hc : holds c = false) : (takeAll holds).run st = some ([], st) := by
  change (takeWhileSpaced holds (st.rest.length + 1)).run st = _
  refine run_bind_eq_some_iff.2 ⟨some c, st, ?_, ?_⟩
  · change some (st.rest.head?, st) = _
    rw [h]
    rfl
  · dsimp only
    rw [if_neg (by simp [hc])]
    rfl

/-- A `count` begins with a digit, or with a blank before it. -/
theorem run_count_eq_none {c : Char} (h : st.rest = c :: cs) (hblank : Text.isBlank c = false)
    (hdigit : c.isDigit = false) : count.run st = none := by
  have hb := run_takeAll_of_not_holds h hblank
  have hd := run_takeAll_of_not_holds h hdigit
  rw [count, run_bind_of_run_eq (run_discard_of_run_eq hb), run_bind_of_run_eq hd,
    run_bind_of_run_eq (run_discard_of_run_eq hb)]
  rfl

/-- A `'{'` follows, but no repetition in braces. -/
def NoBounds (st : ReaderState) : Prop := st.rest.head? = some '{' ∧ bounds.run st = none

theorem noBounds_of_rest (h : st.rest = '{' :: cs)
    (hcs : (ReaderState.skipped { st with rest := cs }).rest.head? = some ')') : NoBounds st := by
  refine ⟨by rw [h, List.head?_cons], ?_⟩
  obtain ⟨tail, htail⟩ := List.head?_eq_some_iff.1 hcs
  have hexpect : (expect '{').run st = some ((), { st with rest := cs }) :=
    run_bind_of_run_eq (run_take_eq_some_iff.2 ⟨cs, h, rfl⟩)
  rw [bounds, run_bind_of_run_eq hexpect, run_bind_of_run_eq (run_skipBlanks _), StateT.run_bind,
    run_count_eq_none htail (by decide) (by decide)]
  rfl

/-- What stands in the braces after a word boundary. -/
def namedBoundary (word : Unicode.CharSet) : Reader Assertion := do
  let name ← takeAll isBoundaryName
  expect '}'
  match String.ofList name with
  | "start" => return .wordStart word
  | "end" => return .wordEnd word
  | "start-half" => return .noWordBefore word
  | "end-half" => return .noWordAfter word
  | _ => failure

theorem confined_namedBoundary (word : Unicode.CharSet) : Confined (namedBoundary word) := by
  refine (confined_takeAll (by decide)).bind fun name ↦ (confined_expect '}').bind fun _ ↦ ?_
  split
  all_goals first | exact .pure _ | exact .failure

/-- What is read of a word boundary with a `'{'` after it, from the state `t` after the brace: a
name if one begins, and else the boundary alone. -/
def boundaryAt (st t : ReaderState) : Option (Assertion × ReaderState) :=
  t.rest.head?.bind fun c ↦
    if isBoundaryName c then (namedBoundary st.flags.word).run t
    else some (.wordBoundary st.flags.word, st)

theorem boundaryAt_of_nil {t : ReaderState} (h : t.rest = []) : boundaryAt st t = none := by
  rw [boundaryAt, h]
  rfl

theorem boundaryAt_of_cons {t : ReaderState} {c : Char} (h : t.rest = c :: cs) :
    boundaryAt st t =
      if isBoundaryName c then (namedBoundary st.flags.word).run t
      else some (.wordBoundary st.flags.word, st) := by
  rw [boundaryAt, h]
  rfl

theorem run_boundaryKind (h : st.rest = '{' :: cs) :
    boundaryKind.run st = boundaryAt st (ReaderState.skipped { st with rest := cs }) := by
  have htake := run_discard_of_run_eq (run_takeSpaced h)
  obtain ⟨rest, flags, names⟩ := st
  obtain rfl : rest = '{' :: cs := h
  have hget (st : ReaderState) : (get : Reader ReaderState).run st = some (st, st) := rfl
  generalize ReaderState.skipped _ = t at htake ⊢
  have hpeek : peek.run t = some (t.rest.head?, t) := rfl
  rw [boundaryKind, run_bind_of_run_eq (hget _)]
  dsimp only
  split
  · rw [run_bind_of_run_eq htake, run_bind_of_run_eq hpeek, boundaryAt]
    cases t.rest.head? with
    | none => rfl
    | some c =>
      dsimp only [Option.bind_some]
      cases hc : isBoundaryName c <;> rfl
  · rename_i hne
    exact absurd rfl (hne cs)

theorem run_boundaryKind_of_head (h : st.rest.head? ≠ some '{') :
    boundaryKind.run st = some (.wordBoundary st.flags.word, st) := by
  have hget : (get : Reader ReaderState).run st = some (st, st) := rfl
  rw [boundaryKind, run_bind_of_run_eq hget]
  dsimp only
  split
  · rename_i hrest
    exact absurd (congrArg List.head? hrest) h
  · rfl

theorem confinedAt_boundaryKind_of_brace (h : st.rest = '{' :: cs) :
    ConfinedAt (fun _ ↦ NoBounds) boundaryKind st := by
  let t : ReaderState := { st with rest := cs }
  have h' : st.closed.rest = '{' :: (cs ++ [')', '$']) := by
    rw [ReaderState.rest_closed, h]
    rfl
  have hown : boundaryKind.run st = boundaryAt st t.skipped := run_boundaryKind h
  have hclosed : boundaryKind.run st.closed = boundaryAt st.closed t.closed.skipped :=
    run_boundaryKind h'
  rcases skipped_closed t with hskipped | ⟨hnil, hnil', -⟩
  · cases hrest : t.skipped.rest with
    | nil =>
      -- The brace stands at the end, and in the longer text no repetition is read from it.
      have hparen : t.closed.skipped.rest = [')', '$'] := by
        rw [hskipped, ReaderState.rest_closed, hrest]
        rfl
      refine .of_stuck (hown.trans (boundaryAt_of_nil hrest)) fun a s hrun _ ↦ ?_
      cases (hclosed.trans (boundaryAt_of_cons hparen)).symm.trans hrun
      exact noBounds_of_rest h' (congrArg List.head? hparen)
    | cons c ds =>
      have hrest' : t.closed.skipped.rest = c :: (ds ++ [')', '$']) := by
        rw [hskipped, ReaderState.rest_closed, hrest]
        rfl
      rw [boundaryAt_of_cons hrest] at hown
      rw [boundaryAt_of_cons hrest'] at hclosed
      cases hc : isBoundaryName c with
      | true =>
        rw [if_pos hc] at hown hclosed
        have htake := run_discard_of_run_eq (run_takeSpaced h)
        have htake' := run_discard_of_run_eq (run_takeSpaced h')
        have hconfined : ConfinedUpTo (fun _ ↦ NoBounds)
            (discard takeSpaced >>= fun _ ↦ namedBoundary st.flags.word) :=
          confined_takeSpaced.discard.bind fun _ ↦ (confined_namedBoundary st.flags.word).upTo
        refine (hconfined st).congr ?_ ?_
        · rw [hown, run_bind_of_run_eq htake]
        · rw [hclosed, run_bind_of_run_eq htake']
          rfl
      | false =>
        rw [if_neg (by simp [hc])] at hown hclosed
        exact .of_runs hown hclosed List.suffix_rfl rfl
  · refine .of_fails (hown.trans (boundaryAt_of_nil hnil)) fun a s hrun ↦ ?_
    cases (hclosed.trans (boundaryAt_of_nil hnil')).symm.trans hrun

theorem confined_boundaryKind : ConfinedUpTo (fun _ ↦ NoBounds) boundaryKind := by
  intro st
  by_cases hhead : st.rest.head? = some '{'
  · obtain ⟨cs, hcs⟩ := List.head?_eq_some_iff.1 hhead
    exact confinedAt_boundaryKind_of_brace hcs
  · refine .of_runs (run_boundaryKind_of_head hhead) (run_boundaryKind_of_head ?_)
      List.suffix_rfl rfl
    rw [ReaderState.rest_closed]
    cases hrest : st.rest with
    | nil => decide
    | cons c cs => rwa [hrest] at hhead

/-! ### Escapes -/

/-- An `.assertion`, before a brace with which no repetition begins. -/
def StuckPiece (piece : Piece) (st : ReaderState) : Prop :=
  (∃ a, piece = .assertion a) ∧ NoBounds st

theorem confined_escape : ConfinedUpTo StuckPiece escape := by
  have hboundary : ConfinedUpTo StuckPiece
      (boundaryKind >>= fun a ↦ pure (Piece.assertion a)) := by
    refine confined_boundaryKind.bind (fun _ ↦ .pure _) ?_
    rintro a st' hstuck _ _ ⟨⟩
    exact ⟨⟨a, rfl⟩, hstuck⟩
  refine .get_bind (fun st ↦ ?_) fun _ ↦ rfl
  refine Confined.bind confined_take fun c ↦ .ite (fun _ ↦ .failure) fun _ ↦
    .ite (fun _ ↦ Confined.bind confined_skipBlanks fun _ ↦ (confined_hexEscape c).upTo) fun _ ↦
    .ite (fun _ ↦ Confined.bind confined_skipBlanks fun _ ↦ (confined_propertyEscape _).upTo)
      fun _ ↦ ?_
  split
  · exact .pure _
  · refine .ite (fun _ ↦ .pure _) fun _ ↦ ?_
    split
    all_goals first | exact .pure _ | exact .failure | exact hboundary

end AssessmentItem.Pattern
