import AssessmentItem.Proofs.Pattern.Classes

/-!
# Groups and alternatives keep to their text

Repetitions, heads of groups and alternatives are read from the front of a text as they are read
from it with a closing parenthesis and a dollar sign after it.  Neither character closes a name that
is not closed in the text.  Flag letters that are not closed take the parenthesis, but then the
group around them has none.  Flags are set after the head of a group and set back after its end; in
both places either no comment stands open or a parenthesis has to follow.

## Main definitions

* `Pattern.restOfBounds`, `Pattern.restOfHead`, `Pattern.afterHead` : the readers after their first
  steps.

## Main results

* `Pattern.exact_groupName`, `Pattern.exact_readFlags` : what stands at the head of a group.
* `Pattern.confined_body` : alternatives, up to the end of their group.
-/

namespace AssessmentItem.Pattern

variable {st s : ReaderState} {cs : List Char}

/-! ### Repetition -/

/-- What is read of a repetition after the `'{'`. -/
def restOfBounds : Reader (Nat × Option Nat) := do
  skipBlanks
  let least ← count
  let most ←
    match ← peek with
    | some ',' => do
      discard takeSpaced
      if (← peek) == some '}' then pure none else pure (some (← count))
    | _ => pure (some least)
  expect '}'
  match most with
  | some n => if n < least then failure
  | none => pure ()
  skipBlanks
  return (least, most)

theorem bounds_eq : bounds = expect '{' >>= fun _ ↦ restOfBounds := rfl

theorem confined_restOfBounds : Confined restOfBounds := by
  have hclosing (least : Nat) (most : Option Nat) : Confined (do
      expect '}'
      match most with
      | some n => if n < least then failure
      | none => pure ()
      skipBlanks
      return (least, most) : Reader (Nat × Option Nat)) := by
    refine (confined_expect '}').bind fun _ ↦ ?_
    cases most with
    | none => exact confined_skipBlanks.bind fun _ ↦ .pure _
    | some n => exact Confined.when .failure fun _ ↦ confined_skipBlanks.bind fun _ ↦ .pure _
  refine confined_skipBlanks.bind fun _ ↦ confined_count.bind fun least ↦
    .peek_bind (fun c ↦ ?_) rfl
  split
  · refine confined_takeSpaced.discard.bind fun _ ↦
      .peek_bind (fun c ↦ .ite (fun _ ↦ ?_) fun _ ↦ ?_) rfl
    · exact Confined.bind (.pure none) fun _ ↦ hclosing least _
    · exact confined_count.bind fun n ↦ Confined.bind (.pure (some n)) fun _ ↦ hclosing least _
  · exact Confined.bind (.pure (some least)) fun _ ↦ hclosing least _

theorem confined_bounds : Confined bounds := by
  rw [bounds_eq]
  exact (confined_expect '{').bind fun _ ↦ confined_restOfBounds

theorem takes_bounds : Takes 1 bounds := by
  rw [bounds_eq]
  exact (takes_expect '{').bind_left fun _ ↦ confined_restOfBounds.takes_zero

theorem exact_repeatLast (items : List Item) (least : Nat) (most : Option Nat) :
    Exact (repeatLast items least most) := by
  unfold repeatLast
  split
  · exact (exact_takeText? (by decide)).discard.bind fun _ ↦ .pure _
  · exact .failure

theorem exact_ofPiece (flags : Flags) (piece : Piece) : Exact (ofPiece flags piece) := by
  cases piece with
  | literal c byte => exact .ite (fun _ ↦ .failure) fun _ ↦ .pure _
  | set s => exact .lift _
  | assertion a => exact .pure _
  | dot => exact .lift _

/-! ### Groups -/

theorem not_isNameChar_paren (first : Bool) : isNameChar first ')' = false := by
  cases first <;> decide +kernel

/-- Whether the characters of a name are such as a name may have. -/
def wellNamed : List Char → Bool
  | [] => false
  | c :: cs => isNameChar true c && cs.all (isNameChar false)

theorem not_wellNamed_append (cs : List Char) : wellNamed (cs ++ [')', '$']) = false := by
  cases cs with
  | nil =>
    rw [List.nil_append, wellNamed, not_isNameChar_paren, Bool.false_and]
  | cons c cs =>
    rw [List.cons_append, wellNamed, List.all_append, List.all_cons, not_isNameChar_paren,
      Bool.false_and, Bool.and_false, Bool.and_false]

theorem run_groupName (st : ReaderState) {name : List Char}
    (hname : st.rest.takeWhile (· != '>') = name) :
    groupName.run st =
      if !wellNamed name || st.names.contains name then none
      else (expect '>').run
        { st with rest := st.rest.drop name.length, names := name :: st.names } := by
  have hget : (get : Reader ReaderState).run st = some (st, st) := rfl
  subst hname
  rw [groupName, run_bind_of_run_eq hget]
  change StateT.run (if !wellNamed (st.rest.takeWhile (· != '>')) ||
    st.names.contains (st.rest.takeWhile (· != '>')) then _ else _) st = _
  split <;> rfl

theorem exact_groupName : Exact groupName := by
  intro st
  have hown := run_groupName st rfl
  have hclosed := run_groupName st.closed rfl
  rw [ReaderState.rest_closed, List.takeWhile_append] at hclosed
  split at hclosed
  · -- No angle bracket closes the name, and the closing parenthesis is none of its characters.
    rename_i hlength
    have hall : ([')', '$'] : List Char).takeWhile (· != '>') = [')', '$'] := by decide
    rw [hall, not_wellNamed_append] at hclosed
    rw [hlength, List.drop_length] at hown
    refine .of_fails ?_ fun a s hrun ↦ ?_
    · rw [hown]
      split <;> rfl
    · cases hclosed.symm.trans hrun
  · have hle : (st.rest.takeWhile (· != '>')).length ≤ st.rest.length :=
      (List.takeWhile_sublist _).length_le
    rw [List.drop_append_of_le_length hle] at hclosed
    by_cases hrefused : !wellNamed (st.rest.takeWhile (· != '>')) ||
        st.names.contains (st.rest.takeWhile (· != '>'))
    · refine .of_fails (hown.trans (if_pos hrefused)) fun a s hrun ↦ ?_
      cases (hclosed.trans (if_pos hrefused)).symm.trans hrun
    · rw [ExactAt, hown.trans (if_neg hrefused), hclosed.trans (if_neg hrefused)]
      refine (exact_expect '>' _).imp_left fun hread ↦ ?_
      obtain ⟨a, s, hrun, hrun', hsuffix, hflags⟩ := hread
      exact ⟨a, s, hrun, hrun', hsuffix.trans (List.drop_suffix _ _), hflags⟩

/-- What `flagLetters` has read of a text and of the longer one: the same, or nothing of the text
and of the longer one a `')'` that ends them. -/
def SameLetters (cs : List Char) (own closed : Option (Char × Bool × Flags × List Char)) : Prop :=
  (∃ last noFlags flags rest, own = some (last, noFlags, flags, rest) ∧
      closed = some (last, noFlags, flags, rest ++ [')', '$']) ∧ rest <:+ cs) ∨
    own = none ∧
      ∀ last noFlags flags rest, closed = some (last, noFlags, flags, rest) → rest.length < 2

theorem SameLetters.cons {own closed : Option (Char × Bool × Flags × List Char)}
    (h : SameLetters cs own closed) (c : Char) : SameLetters (c :: cs) own closed := by
  refine h.imp_left fun hsame ↦ ?_
  obtain ⟨last, noFlags, flags, rest, hown, hclosed, hsuffix⟩ := hsame
  exact ⟨last, noFlags, flags, rest, hown, hclosed, hsuffix.trans (List.suffix_cons c cs)⟩

theorem sameLetters_none (cs : List Char) : SameLetters cs none none :=
  .inr ⟨rfl, by rintro _ _ _ _ ⟨⟩⟩

theorem flagLetters_append (cs : List Char) (off dangling : Bool) (seen : List Char)
    (flags : Flags) :
    SameLetters cs (flagLetters cs off dangling seen flags)
      (flagLetters (cs ++ [')', '$']) off dangling seen flags) := by
  induction cs generalizing off dangling seen flags with
  | nil =>
    refine .inr ⟨rfl, fun last noFlags flags' rest h ↦ ?_⟩
    rw [List.nil_append, flagLetters, if_pos (.inr rfl)] at h
    cases dangling with
    | true => cases h
    | false =>
      cases h
      exact Nat.lt_succ_self 1
  | cons c cs ih =>
    rw [List.cons_append, flagLetters, flagLetters]
    split
    · cases dangling with
      | true => exact sameLetters_none _
      | false => exact .inl ⟨_, _, _, cs, rfl, rfl, List.suffix_cons c cs⟩
    · split
      · cases off with
        | true => exact sameLetters_none _
        | false => exact (ih true true seen flags).cons c
      · split
        · exact sameLetters_none _
        · split
          · exact (ih off false _ _).cons c
          · exact sameLetters_none _

/-- What a `'('` begins, after the blanks that follow it. -/
def restOfHead : Reader GroupHead := do
  let state ← get
  let lookaround := [['?', '='], ['?', '!'], ['?', '<', '='], ['?', '<', '!']]
  if lookaround.any fun mark ↦ mark.isPrefixOf state.rest then failure
  else if ← takeText? ['?', 'P', '<'] then
    groupName
    return .group state.flags
  else if ← takeText? ['?', '<'] then
    groupName
    return .group state.flags
  else if ← takeText? ['?'] then
    match flagLetters (← get).rest false false [] state.flags with
    | some (last, noFlags, flags, rest) =>
      modify fun state ↦ { state with rest := rest }
      if last = ':' then return .group flags
      else if noFlags then failure
      else return .flags flags
    | none => failure
  else return .group state.flags

theorem groupHead_eq :
    groupHead = expect '(' >>= fun _ ↦ skipBlanks >>= fun _ ↦ restOfHead := rfl

/-- The `flags` that flag letters give, for the group or for the rest of the enclosing one. -/
def readFlags (flags : Flags) : Reader GroupHead := do
  match flagLetters (← get).rest false false [] flags with
  | some (last, noFlags, flags, rest) =>
    modify fun state ↦ { state with rest := rest }
    if last = ':' then return .group flags
    else if noFlags then failure
    else return .flags flags
  | none => failure

theorem run_readFlags (flags : Flags) (st : ReaderState) :
    (readFlags flags).run st =
      (flagLetters st.rest false false [] flags).bind fun (last, noFlags, flags, rest) ↦
        if last = ':' then some (.group flags, { st with rest := rest })
        else if noFlags then none
        else some (.flags flags, { st with rest := rest }) := by
  have hget : (get : Reader ReaderState).run st = some (st, st) := rfl
  rw [readFlags, run_bind_of_run_eq hget]
  cases flagLetters st.rest false false [] flags with
  | none => rfl
  | some found =>
    obtain ⟨last, noFlags, flags, rest⟩ := found
    dsimp only [Option.bind_some]
    by_cases hlast : last = ':'
    · rw [if_pos hlast, if_pos hlast]
      rfl
    · rw [if_neg hlast, if_neg hlast]
      cases noFlags <;> rfl

theorem exact_readFlags (flags : Flags) : Exact (readFlags flags) := by
  intro st
  rw [ExactAt, run_readFlags, run_readFlags, ReaderState.rest_closed]
  rcases flagLetters_append st.rest false false [] flags with
    ⟨last, noFlags, flags', rest, hown, hclosed, hsuffix⟩ | ⟨hown, hclosed⟩
  · rw [hown, hclosed, Option.bind_some, Option.bind_some]
    dsimp only
    split
    · exact .inl ⟨_, _, rfl, rfl, hsuffix, rfl⟩
    · split
      · exact .inr ⟨rfl, by rintro _ _ ⟨⟩⟩
      · exact .inl ⟨_, _, rfl, rfl, hsuffix, rfl⟩
  · refine .inr ⟨by rw [hown]; rfl, fun a s h ↦ ?_⟩
    obtain ⟨⟨last, noFlags, flags', rest⟩, hletters, h⟩ := Option.bind_eq_some_iff.1 h
    have hlt := hclosed last noFlags flags' rest hletters
    dsimp only at h
    split at h
    · cases h
      exact hlt
    · split at h
      · cases h
      · cases h
        exact hlt

theorem exact_restOfHead : Exact restOfHead := by
  have hmarks (cs : List Char) (marks : List (List Char)) (h : ∀ mark ∈ marks, ')' ∉ mark) :
      (marks.any fun mark ↦ mark.isPrefixOf (cs ++ [')', '$'])) =
        marks.any fun mark ↦ mark.isPrefixOf cs := by
    induction marks with
    | nil => rfl
    | cons mark marks ih =>
      rw [List.any_cons, List.any_cons, isPrefixOf_append_of_notMem (h mark List.mem_cons_self),
        ih fun m hm ↦ h m (List.mem_cons_of_mem mark hm)]
  have hnamed (flags : Flags) : Exact (groupName >>= fun _ ↦ pure (GroupHead.group flags)) :=
    exact_groupName.bind fun _ ↦ .pure _
  refine .get_bind (fun st ↦ .ite (fun _ ↦ .failure) fun _ ↦ ?_) fun st ↦ ?_
  · refine (exact_takeText? (by decide)).bind fun _ ↦ .ite (fun _ ↦ hnamed _) fun _ ↦
      (exact_takeText? (by decide)).bind fun _ ↦ .ite (fun _ ↦ hnamed _) fun _ ↦
      (exact_takeText? (by decide)).bind fun _ ↦ .ite (fun _ ↦ exact_readFlags _) fun _ ↦ .pure _
  · dsimp only
    rw [ReaderState.rest_closed, hmarks _ _ (by decide)]
    rfl

theorem takes_groupHead : Takes 1 groupHead := by
  rw [groupHead_eq]
  exact (takes_expect '(').bind_left fun _ ↦
    confined_skipBlanks.takes_zero.bind_right fun _ ↦ exact_restOfHead.takes_zero

/-- Where flags are read, they are read of the longer text. -/
theorem run_groupHead_flags {flags : Flags} (h : groupHead.run st = some (.flags flags, s)) :
    groupHead.run st.closed = some (.flags flags, s.closed) := by
  rw [groupHead_eq] at h ⊢
  obtain ⟨_, st₁, hexpect, h⟩ := run_bind_eq_some_iff.1 h
  obtain ⟨_, st₂, hskip, h⟩ := run_bind_eq_some_iff.1 h
  cases (run_skipBlanks st₁).symm.trans hskip
  have hexpect' := (exact_expect '(').run_closed hexpect
  rw [run_bind_of_run_eq hexpect', run_bind_of_run_eq (run_skipBlanks _)]
  rcases skipped_closed st₁ with hskipped | ⟨hnil, -⟩
  · rw [hskipped]
    exact exact_restOfHead.run_closed h
  · -- Nothing is left for flags to be read of.
    generalize st₁.skipped = st₂ at h hnil
    obtain ⟨rest, fl, names⟩ := st₂
    obtain rfl : rest = [] := hnil
    cases h

theorem confined_groupHead : Confined groupHead := by
  rw [groupHead_eq]
  exact (confined_expect '(').bind fun _ ↦
    confined_skipBlanks.bind fun _ ↦ exact_restOfHead.confined

/-! ### Alternatives -/

/-- Where there are `NoBounds` at the brace that comes next, `body` has nothing to read. -/
theorem run_body_of_noBounds (h : NoBounds st) (fuel : Nat) (branches : List Sized)
    (items : List Item) : (body fuel branches items).run st = none := by
  cases fuel with
  | zero => rfl
  | succ fuel =>
    have hget : (get : Reader ReaderState).run st = some (st, st) := rfl
    have hpeek : peek.run st = some (some '{', st) := by
      change some (st.rest.head?, st) = _
      rw [h.1]
    have hskip := run_skipBlanks st
    rw [skipped_of_brace h.1] at hskip
    rw [body, run_bind_of_run_eq hskip, run_bind_of_run_eq hget, run_bind_of_run_eq hpeek]
    change (bounds >>= _).run st = none
    rw [StateT.run_bind, h.2]
    rfl

/-- The flags that are in force after what a `'('` begins. -/
def GroupHead.inner : GroupHead → Flags
  | flags inner => inner
  | group inner => inner

/-- What is read after the head of a group under its flags, up to the end of the enclosing group. -/
def afterHead (fuel : Nat) (branches : List Sized) (items : List Item) (outer : Flags) :
    GroupHead → Reader Sized
  | .flags _ => body fuel branches (none :: items)
  | .group _ => do
    let group ← body fuel [] []
    expect ')'
    modify fun state ↦ { state with flags := outer }
    body fuel branches (some ⟨group.pattern, group.depth + 1⟩ :: items)

/-- A `.group` is closed before what follows it is read. -/
theorem takes_afterHead_group {fuel : Nat} {branches : List Sized} {items : List Item}
    {outer inner : Flags} (h : ∀ branches items, Confined (body fuel branches items)) :
    Takes 1 (afterHead fuel branches items outer (.group inner)) :=
  (h [] []).takes_zero.bind_right fun _ ↦ (takes_expect ')').bind_left fun _ st a s hrun ↦
    (h branches _).takes_zero { st with flags := outer } a s hrun

theorem confined_body (fuel : Nat) (branches : List Sized) (items : List Item) :
    Confined (body fuel branches items) := by
  induction fuel generalizing branches items with
  | zero => exact .failure
  | succ fuel ih =>
    have hrepeat (items : List Item) (least : Nat) (most : Option Nat) :
        Confined (repeatLast items least most >>= fun items ↦ body fuel branches items) :=
      Confined.bind (exact_repeatLast items least most).confined fun _ ↦ ih _ _
    have hpiece (flags : Flags) (piece : Piece) : Confined (ofPiece flags piece >>= fun p ↦
        body fuel branches (some ⟨p, 0⟩ :: items)) :=
      Confined.bind (exact_ofPiece flags piece).confined fun _ ↦ ih _ _
    rw [body]
    refine confined_skipBlanks.bind fun _ ↦ .get_bind (fun st ↦ ?_) fun _ ↦ rfl
    refine .peek_bind (fun c ↦ ?_) rfl
    split
    · exact .pure _
    · exact .pure _
    · exact confined_take.discard.bind fun _ ↦ ih _ _
    · -- The flags are set after the head of the group, and set back after its end.
      have hafter (head : GroupHead) :
          Confined (afterHead fuel branches items st.flags head) := by
        cases head with
        | flags => exact ih _ _
        | group =>
          exact (ih [] []).bind fun _ ↦ (confined_expect ')').bind_setFlags (fun _ ↦ st.flags)
            (takes_expect ')') (fun _ ↦ ih _ _) fun _ _ _ h ↦ .inl ((exact_expect ')').run_closed h)
      have hgroup := confined_groupHead.bind_setFlags GroupHead.inner takes_groupHead hafter ?_
      · intro t
        refine (hgroup t).congr ?_ ?_ <;>
        refine run_bind_congr fun head _ _ ↦ ?_ <;>
        cases head <;> rfl
      · intro t head s hhead
        cases head with
        | flags => exact .inl (run_groupHead_flags hhead)
        | group => exact .inr (takes_afterHead_group ih)
    · exact (confinedClasses fuel).bracketClass.bind fun _ ↦ Confined.bind (.lift _) fun _ ↦ ih _ _
    · exact confined_take.discard.bind fun _ ↦ hrepeat _ _ _
    · exact confined_take.discard.bind fun _ ↦ hrepeat _ _ _
    · exact confined_take.discard.bind fun _ ↦ hrepeat _ _ _
    · exact confined_bounds.bind fun _ ↦ hrepeat _ _ _
    · refine confined_take.bind fun c ↦ ?_
      dsimp only
      split
      · refine confined_escape.bind (hpiece st.flags) ?_
        rintro _ s ⟨⟨a, rfl⟩, hnone⟩ b t hrun
        cases (run_body_of_noBounds hnone fuel branches _).symm.trans hrun
      all_goals exact Confined.bind (.pure _) (hpiece st.flags)

end AssessmentItem.Pattern
