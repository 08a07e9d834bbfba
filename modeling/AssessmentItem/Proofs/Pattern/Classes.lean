import AssessmentItem.Proofs.Pattern.Escapes

/-!
# Classes keep to their text

Classes in brackets and their items are read from the front of a text as they are read from it with
a closing parenthesis and a dollar sign after it: a class that is not closed in the text is not
closed in the longer one.

## Main definitions

* `Pattern.asciiClassAt?` : the class with a name that comes next, if one does.
* `Pattern.itemsAt` : what is read of a class, by the characters that come next.
* `Pattern.ConfinedClasses` : the readers of classes keep to their text and take something of it.

## Main results

* `Pattern.confined_classItem`, `Pattern.confined_asciiClass` : the items of a class.
* `Pattern.confinedClasses` : classes, however deeply they are nested.
-/

namespace AssessmentItem.Pattern

variable {st s : ReaderState} {cs : List Char}

/-! ### Items of classes -/

theorem confined_classPiece : ConfinedUpTo StuckPiece classPiece := by
  refine Confined.bind confined_take fun c ↦ ?_
  split
  · exact confined_escape
  · exact .pure _

theorem takes_classPiece : Takes 1 classPiece := by
  refine takes_take.bind_left fun c ↦ ?_
  split
  · exact confined_escape.takes_zero
  · exact takes_pure _

theorem confined_pieceChar (flags : Flags) (piece : Piece) : Confined (pieceChar flags piece) := by
  cases piece with
  | literal c byte => exact .ite (fun _ ↦ .pure c) fun _ ↦ .failure
  | set => exact .failure
  | assertion => exact .failure
  | dot => exact .failure

/-- Whether the character or class before `rest` stands alone: no hyphen follows, or one that ends
no range. -/
def beginsNoRange (spaced : Bool) (rest : List Char) : Bool :=
  let after := if spaced then afterBlanks false (rest.drop 1) else rest.drop 1
  rest.head? != some '-' || after.head? == some ']' || after.head? == some '-'

theorem beginsNoRange_append (spaced : Bool) (rest : List Char) :
    beginsNoRange spaced (rest ++ [')', '$']) = beginsNoRange spaced rest := by
  have hhead (mark : Char) (hmark : ')' ≠ mark) (cs : List Char) :
      ((cs ++ [')', '$']).head? == some mark) = (cs.head? == some mark) := by
    cases cs with
    | nil => simp [hmark]
    | cons c cs => rfl
  cases rest with
  | nil => cases spaced <;> rfl
  | cons c cs =>
    have hafter (mark : Char) (hmark : ')' ≠ mark) :
        ((afterBlanks false (cs ++ [')', '$'])).head? == some mark) =
          ((afterBlanks false cs).head? == some mark) := by
      rcases afterBlanks_append false cs with happend | ⟨hnil, hnil', -⟩
      · rw [happend, hhead mark hmark]
      · rw [hnil, hnil']
    cases spaced with
    | true =>
      simp only [beginsNoRange, if_true, List.cons_append, List.drop_succ_cons, List.drop_zero,
        List.head?_cons, hafter ']' (by decide), hafter '-' (by decide)]
    | false =>
      simp only [beginsNoRange, Bool.false_eq_true, if_false, List.cons_append, List.drop_succ_cons,
        List.drop_zero, List.head?_cons, hhead ']' (by decide), hhead '-' (by decide)]

theorem skipped_of_brace (h : st.rest.head? = some '{') : st.skipped = st := by
  obtain ⟨cs, hcs⟩ := List.head?_eq_some_iff.1 h
  obtain ⟨rest, flags, names⟩ := st
  obtain rfl : rest = '{' :: cs := hcs
  rw [ReaderState.skipped]
  dsimp only
  split <;> rfl

/-- What is read after the `first` piece of an item. -/
def restOfItem (flags : Flags) (first : Piece) : Reader Unicode.CharSet := do
  skipBlanks
  if beginsNoRange flags.spaced (← get).rest then
    match first with
    | .set s => return s
    | piece => return .one (← pieceChar flags piece).toNat
  else
    discard takeSpaced
    let last ← classPiece
    let first ← pieceChar flags first
    let last ← pieceChar flags last
    if last < first then failure
    return .range first.toNat last.toNat

theorem classItem_eq :
    classItem = get >>= fun st ↦ classPiece >>= fun first ↦ restOfItem st.flags first := rfl

theorem confined_restOfItem (flags : Flags) (first : Piece) :
    Confined (restOfItem flags first) := by
  refine confined_skipBlanks.bind fun _ ↦
    .get_bind (fun st ↦ .ite (fun _ ↦ ?_) fun _ ↦ ?_) ?_
  · split
    · exact .pure _
    · exact (confined_pieceChar flags _).bind fun _ ↦ .pure _
  · refine confined_takeSpaced.discard.bind fun _ ↦ ConfinedUpTo.bind confined_classPiece
      (fun last ↦ (confined_pieceChar flags first).bind fun _ ↦
        (confined_pieceChar flags last).bind fun _ ↦ .ite (fun _ ↦ Confined.bind .failure fun _ ↦
          .pure _) fun _ ↦ .pure _) ?_
    -- An assertion ends no range.
    rintro last s ⟨⟨a, rfl⟩, -⟩ b t hrun
    obtain ⟨_, _, -, hrun⟩ := run_bind_eq_some_iff.1 hrun
    obtain ⟨_, _, hchar, -⟩ := run_bind_eq_some_iff.1 hrun
    cases hchar
  · intro st
    rw [ReaderState.rest_closed, beginsNoRange_append]

theorem confined_classItem : Confined classItem := by
  rw [classItem_eq]
  refine .get_bind (fun st ↦ confined_classPiece.bind (confined_restOfItem st.flags) ?_) fun _ ↦ rfl
  -- An assertion is no item, and the brace after it shows that it stands alone.
  rintro first s ⟨⟨a, rfl⟩, hhead, -⟩ b t hrun
  obtain ⟨_, s', hskip, hrun⟩ := run_bind_eq_some_iff.1 hrun
  cases (run_skipBlanks s).symm.trans hskip
  obtain ⟨cs, hcs⟩ := List.head?_eq_some_iff.1 hhead
  have hnorange : beginsNoRange st.flags.spaced s.rest = true := by simp [beginsNoRange, hcs]
  rw [skipped_of_brace hhead] at hrun
  obtain ⟨_, _, ⟨⟩, hrun⟩ := run_bind_eq_some_iff.1 hrun
  rw [if_pos hnorange] at hrun
  obtain ⟨_, _, hchar, -⟩ := run_bind_eq_some_iff.1 hrun
  cases hchar

theorem takes_classItem : Takes 1 classItem := by
  intro st b s hrun
  have hrest (first : Piece) : Takes 0 (restOfItem st.flags first) :=
    (confined_restOfItem st.flags first).takes_zero
  exact takes_classPiece.bind_left hrest st b s hrun

/-! ### Classes -/

/-- Whether a `'^'` comes first, and the text after it. -/
def afterCaret : List Char → Bool × List Char
  | '^' :: text => (true, text)
  | text => (false, text)

/-- The negation, the set and the length of the ASCII class that comes next, if one does. -/
def asciiClassAt? (rest : List Char) : Option (Bool × Unicode.CharSet × List Char) :=
  let (negated, text) := afterCaret (rest.drop 2)
  let name := text.takeWhile (· != ':')
  if ['[', ':'].isPrefixOf rest && [':', ']'].isPrefixOf (text.drop name.length) then
    (asciiClass? name).map (negated, ·, text.drop (name.length + 2))
  else none

theorem take_eq_iff {mark : List Char} (cs : List Char) :
    cs.take mark.length = mark ↔ mark.isPrefixOf cs := by
  rw [List.isPrefixOf_iff_prefix, List.prefix_iff_eq_take, eq_comm]

/-- What is read after the negation of an ASCII class. -/
def restOfAsciiClass (state : ReaderState) :
    Bool × List Char → Reader (Option Unicode.CharSet)
  | (negated, text) => do
    let name := text.takeWhile (· != ':')
    match state.rest.take 2, (text.drop name.length).take 2, asciiClass? name with
    | ['[', ':'], [':', ']'], some s =>
      set { state with rest := text.drop (name.length + 2) }
      let s := state.flags.fold s
      return some (if negated then .compl s else s)
    | _, _, _ => return none

theorem asciiClass_eq :
    asciiClass = get >>= fun st ↦ restOfAsciiClass st (afterCaret (st.rest.drop 2)) := rfl

theorem run_asciiClass (st : ReaderState) :
    asciiClass.run st =
      match asciiClassAt? st.rest with
      | some (negated, s, rest) =>
        let s := st.flags.fold s
        some (some (if negated then .compl s else s), { st with rest := rest })
      | none => some (none, st) := by
  have hget : (get : Reader ReaderState).run st = some (st, st) := rfl
  rw [asciiClass_eq, run_bind_of_run_eq hget, asciiClassAt?]
  rcases afterCaret (st.rest.drop 2) with ⟨negated, text⟩
  dsimp only [restOfAsciiClass]
  split
  · rename_i s h1 h2 h3
    have h1' : ['[', ':'].isPrefixOf st.rest := (take_eq_iff _).1 h1
    have h2' : [':', ']'].isPrefixOf (text.drop (text.takeWhile (· != ':')).length) :=
      (take_eq_iff _).1 h2
    have hboth : (['[', ':'].isPrefixOf st.rest &&
        [':', ']'].isPrefixOf (text.drop (text.takeWhile (· != ':')).length)) = true := by
      rw [h1', h2', Bool.and_self]
    rw [if_pos hboth, h3]
    rfl
  · rename_i hne
    split
    · rename_i hsome
      split at hsome
      · rename_i hc
        rw [Bool.and_eq_true, ← take_eq_iff, ← take_eq_iff] at hc
        obtain ⟨s, hs, -⟩ := Option.map_eq_some_iff.1 hsome
        exact (hne s hc.1 hc.2 hs).elim
      · cases hsome
    · rfl

theorem afterCaret_append (cs : List Char) :
    afterCaret (cs ++ [')', '$']) = ((afterCaret cs).1, (afterCaret cs).2 ++ [')', '$']) := by
  cases cs with
  | nil => rfl
  | cons c cs =>
    by_cases hc : c = '^'
    · subst hc
      rfl
    · simp [afterCaret, hc]

theorem afterCaret_suffix (cs : List Char) : (afterCaret cs).2 <:+ cs := by
  unfold afterCaret
  split
  · exact List.suffix_cons _ _
  · exact List.suffix_rfl

/-- The class that comes next is the same with `[')', '$']` after the text. -/
theorem asciiClassAt?_append (rest : List Char) :
    asciiClassAt? (rest ++ [')', '$']) =
      (asciiClassAt? rest).map fun (negated, s, rest) ↦ (negated, s, rest ++ [')', '$']) := by
  have hsame : ['[', ':'].isPrefixOf (rest ++ [')', '$']) = ['[', ':'].isPrefixOf rest :=
    isPrefixOf_append_of_notMem (by decide) rest
  cases hopen : ['[', ':'].isPrefixOf rest with
  | false => simp [asciiClassAt?, hsame, hopen]
  | true =>
    obtain ⟨cs, rfl⟩ := exists_eq_append_of_isPrefixOf hopen
    have hcaret : afterCaret ((['[', ':'] ++ cs ++ [')', '$']).drop 2) =
        ((afterCaret cs).1, (afterCaret cs).2 ++ [')', '$']) := afterCaret_append cs
    have hcaret' : afterCaret ((['[', ':'] ++ cs).drop 2) = afterCaret cs := rfl
    rw [asciiClassAt?, asciiClassAt?, hcaret, hcaret', hsame, hopen]
    generalize afterCaret cs = parts
    obtain ⟨negated, text⟩ := parts
    dsimp only
    rw [List.takeWhile_append]
    split
    · -- No colon follows in the text, and none in the two characters.
      rename_i hlength
      have hall : ([')', '$'] : List Char).takeWhile (· != ':') = [')', '$'] := by decide
      rw [hall, List.drop_length, hlength, List.drop_length]
      rfl
    · have hle : (text.takeWhile (· != ':')).length ≤ text.length :=
        (List.takeWhile_sublist _).length_le
      rw [List.drop_append_of_le_length hle, isPrefixOf_append_of_notMem (by decide)]
      cases hcolon : [':', ']'].isPrefixOf (text.drop (text.takeWhile (· != ':')).length) with
      | false => rfl
      | true =>
        obtain ⟨tail, htail⟩ := exists_eq_append_of_isPrefixOf hcolon
        have hle' : (text.takeWhile (· != ':')).length + 2 ≤ text.length := by
          have hlength := congrArg List.length htail
          simp only [List.length_drop, List.length_append, List.length_cons] at hlength
          omega
        rw [List.drop_append_of_le_length hle', Bool.and_self, if_pos rfl, if_pos rfl,
          Option.map_map]
        rfl

theorem suffix_of_asciiClassAt? {rest rest' : List Char} {negated : Bool} {set : Unicode.CharSet}
    (h : asciiClassAt? rest = some (negated, set, rest')) :
    rest' <:+ rest ∧ rest'.length < rest.length := by
  rw [asciiClassAt?] at h
  dsimp only at h
  split at h
  · rename_i hboth
    obtain ⟨s, hs, ⟨⟩⟩ := Option.map_eq_some_iff.1 h
    have hdrop := (afterCaret_suffix (rest.drop 2)).length_le
    refine ⟨?_, ?_⟩
    · exact (List.drop_suffix _ _).trans ((afterCaret_suffix _).trans (List.drop_suffix 2 rest))
    obtain ⟨cs, rfl⟩ := exists_eq_append_of_isPrefixOf (Bool.and_eq_true_iff.1 hboth).1
    rw [List.length_drop] at hdrop ⊢
    simp only [List.length_append, List.length_cons, List.length_nil] at hdrop ⊢
    omega
  · cases h

theorem length_lt_of_run_asciiClass {set : Unicode.CharSet}
    (h : asciiClass.run st = some (some set, s)) : s.rest.length < st.rest.length := by
  rw [run_asciiClass] at h
  cases hclass : asciiClassAt? st.rest with
  | none =>
    rw [hclass] at h
    cases h
  | some found =>
    rw [hclass] at h
    cases h
    exact (suffix_of_asciiClassAt? hclass).2

theorem confined_asciiClass : Confined asciiClass := by
  intro st
  have hown := run_asciiClass st
  have hclosed := run_asciiClass st.closed
  rw [ReaderState.rest_closed, asciiClassAt?_append] at hclosed
  cases hclass : asciiClassAt? st.rest with
  | none =>
    rw [hclass] at hown hclosed
    exact .of_runs hown hclosed List.suffix_rfl rfl
  | some found =>
    obtain ⟨negated, set, rest⟩ := found
    rw [hclass] at hown hclosed
    exact .of_runs hown hclosed (suffix_of_asciiClassAt? hclass).1 rfl

/-- The operation `op` on sets, and what is read after it. -/
def afterOperation (fuel : Nat) (pending : Option (SetOperation × Unicode.CharSet))
    (items : List Unicode.CharSet) (depth : Nat) (flags : Flags) (op : SetOperation) :
    Reader (Unicode.CharSet × Nat) := do
  discard take
  discard take
  classItems fuel (some (op, combine flags pending (.unions items))) [] (depth + 1)

/-- What is read of the items of a class, by the characters `rest` that come next. -/
def itemsAt (fuel : Nat) (pending : Option (SetOperation × Unicode.CharSet))
    (items : List Unicode.CharSet) (depth : Nat) (flags : Flags) (rest : List Char) :
    Reader (Unicode.CharSet × Nat) :=
  match rest with
  | [] => failure
  | ']' :: _ => do
    discard take
    return (combine flags pending (.unions items), depth)
  | '&' :: '&' :: _ => afterOperation fuel pending items depth flags .inter
  | '-' :: '-' :: _ => afterOperation fuel pending items depth flags .diff
  | '~' :: '~' :: _ => afterOperation fuel pending items depth flags .symmDiff
  | '[' :: _ => do
    match ← asciiClass with
    | some s => classItems fuel pending (items ++ [s]) depth
    | none =>
      let (s, inner) ← bracketClass fuel
      classItems fuel pending (items ++ [s]) (max depth inner)
  | _ => do
    let s ← classItem
    classItems fuel pending (items ++ [s]) depth

theorem classItems_succ (fuel : Nat) (pending : Option (SetOperation × Unicode.CharSet))
    (items : List Unicode.CharSet) (depth : Nat) :
    classItems (fuel + 1) pending items depth = skipBlanks >>= fun _ ↦ get >>= fun st ↦
      get >>= fun st' ↦ itemsAt fuel pending items depth st.flags st'.rest := by
  rw [classItems]
  rfl

theorem itemsAt_append (fuel : Nat) (pending : Option (SetOperation × Unicode.CharSet))
    (items : List Unicode.CharSet) (depth : Nat) (flags : Flags) (c : Char) (cs : List Char) :
    itemsAt fuel pending items depth flags (c :: cs ++ [')', '$']) =
      itemsAt fuel pending items depth flags (c :: cs) := by
  have hcons {d : Char} {tail : List Char} (h : c :: cs ++ [')', '$'] = d :: tail) : c = d :=
    (List.cons.inj h).1
  have hpair {d : Char} {tail : List Char} (hd : d ≠ ')')
      (h : c :: cs ++ [')', '$'] = d :: d :: tail) : ∃ tail', c :: cs = d :: d :: tail' := by
    obtain ⟨rfl, htail⟩ := List.cons.inj h
    cases cs with
    | nil => exact absurd (List.cons.inj htail).1.symm hd
    | cons e ds =>
      obtain ⟨rfl, -⟩ := List.cons.inj htail
      exact ⟨ds, rfl⟩
  generalize hlong : c :: cs ++ [')', '$'] = long
  rw [itemsAt.eq_def _ _ _ _ _ long]
  dsimp only
  split
  · cases hlong
  · obtain rfl := hcons hlong
    rfl
  · obtain ⟨tail', htail⟩ := hpair (by decide) hlong
    rw [htail]
    rfl
  · obtain ⟨tail', htail⟩ := hpair (by decide) hlong
    rw [htail]
    rfl
  · obtain ⟨tail', htail⟩ := hpair (by decide) hlong
    rw [htail]
    rfl
  · obtain rfl := hcons hlong
    rfl
  · -- What does not begin the longer text does not begin the text.
    rename_i _ hbracket hand hminus htilde hopen
    have hlonger {short : List Char} (h : c :: cs = short) : long = short ++ [')', '$'] := by
      rw [← hlong, h]
    rw [itemsAt.eq_def]
    dsimp only
    split
    · rename_i heq
      cases heq
    · rename_i heq
      exact (hbracket _ (hlonger heq)).elim
    · rename_i heq
      exact (hand _ (hlonger heq)).elim
    · rename_i heq
      exact (hminus _ (hlonger heq)).elim
    · rename_i heq
      exact (htilde _ (hlonger heq)).elim
    · rename_i heq
      exact (hopen _ (hlonger heq)).elim
    · rfl

/-- What is read of a class after the `'['`. -/
def restOfClass (fuel : Nat) : Reader (Unicode.CharSet × Nat) := do
  skipBlanks
  let negated := (← peek) == some '^'
  if negated then discard takeSpaced
  let hyphens ← takeAll (· == '-')
  let bracket := hyphens.isEmpty && (← peek) == some ']'
  if bracket then discard takeSpaced
  if (← peek).isNone then failure
  let start : List Unicode.CharSet :=
    if bracket then [.one ']'.toNat] else hyphens.map fun c ↦ .one c.toNat
  let (s, depth) ← classItems fuel none start 0
  let s := (← get).flags.fold s
  return (if negated then .compl s else s, depth + 1)

theorem bracketClass_succ (fuel : Nat) :
    bracketClass (fuel + 1) = expect '[' >>= fun _ ↦ restOfClass fuel := by
  rw [bracketClass]
  rfl

/-- What matters of `bracketClass` and `classItems`: they are `Confined` and take something of the
text. -/
structure ConfinedClasses (fuel : Nat) : Prop where
  bracketClass : Confined (bracketClass fuel)
  classItems : ∀ pending items depth, Confined (classItems fuel pending items depth)
  takes_bracketClass : Takes 1 (Pattern.bracketClass fuel)
  takes_classItems : ∀ pending items depth, Takes 1 (Pattern.classItems fuel pending items depth)

theorem ConfinedClasses.itemsAt {fuel : Nat} (h : ConfinedClasses fuel)
    (pending : Option (SetOperation × Unicode.CharSet)) (items : List Unicode.CharSet) (depth : Nat)
    (flags : Flags) (cs : List Char) :
    Confined (itemsAt fuel pending items depth flags cs) ∧
      Takes 1 (Pattern.itemsAt fuel pending items depth flags cs) := by
  have hoperation (op : SetOperation) :
      Confined (afterOperation fuel pending items depth flags op) ∧
        Takes 1 (afterOperation fuel pending items depth flags op) :=
    ⟨confined_take.discard.bind fun _ ↦ confined_take.discard.bind fun _ ↦ h.classItems _ _ _,
      takes_take.discard.bind_left fun _ ↦ (confined_take.discard.bind fun _ ↦
        h.classItems _ _ _).takes_zero⟩
  unfold Pattern.itemsAt
  dsimp only
  split
  · exact ⟨.failure, takes_failure⟩
  · exact ⟨confined_take.discard.bind fun _ ↦ .pure _,
      takes_take.discard.bind_left fun _ ↦ takes_pure _⟩
  · exact hoperation .inter
  · exact hoperation .diff
  · exact hoperation .symmDiff
  · refine ⟨confined_asciiClass.bind fun o ↦ ?_,
      confined_asciiClass.takes_zero.bind_right fun o ↦ ?_⟩
    · cases o with
      | none => exact h.bracketClass.bind fun _ ↦ h.classItems _ _ _
      | some s => exact h.classItems _ _ _
    · cases o with
      | none => exact h.bracketClass.takes_zero.bind_right fun _ ↦ h.takes_classItems _ _ _
      | some s => exact h.takes_classItems _ _ _
  · exact ⟨confined_classItem.bind fun _ ↦ h.classItems _ _ _,
      takes_classItem.bind_left fun _ ↦ (h.classItems _ _ _).takes_zero⟩

theorem ConfinedClasses.restOfClass {fuel : Nat} (h : ConfinedClasses fuel) :
    Confined (restOfClass fuel) := by
  have hdepth (negated : Bool) (x : Unicode.CharSet × Nat) : Confined (match x with
      | (s, depth) => do
        let s := (← get).flags.fold s
        return (if negated then .compl s else s, depth + 1)) :=
    .get_bind (fun _ ↦ .pure _) fun _ ↦ rfl
  refine confined_skipBlanks.bind fun _ ↦ .peek_bind (fun c ↦ ?_) rfl
  refine confined_takeSpaced.discard.when fun _ ↦ (confined_takeAll rfl).bind fun hyphens ↦
    .peek_bind (fun c' ↦ confined_takeSpaced.discard.when fun _ ↦ ?_) ?_
  · refine .peek_bind_of_fails (fun _ ↦ ?_) (fun _ _ ↦ rfl) ?_
    · exact Confined.when .failure fun _ ↦ (h.classItems none _ 0).bind (hdepth _)
    · exact (h.takes_classItems none _ 0).bind_left fun x ↦ (hdepth _ x).takes_zero
  · cases hyphens.isEmpty <;> rfl

theorem confinedClasses_succ {fuel : Nat} (h : ConfinedClasses fuel) :
    ConfinedClasses (fuel + 1) := by
  constructor
  · rw [bracketClass_succ]
    exact (confined_expect '[').bind fun _ ↦ h.restOfClass
  · intro pending items depth
    rw [classItems_succ]
    exact confined_skipBlanks.bind fun _ ↦ .get_bind (fun st ↦ .rest_bind
      (fun cs ↦ (h.itemsAt pending items depth st.flags cs).1)
      (itemsAt_append fuel pending items depth st.flags) (fun _ ↦ rfl)
      (h.itemsAt pending items depth st.flags _).2) fun _ ↦ rfl
  · rw [bracketClass_succ]
    exact (takes_expect '[').bind_left fun _ ↦ h.restOfClass.takes_zero
  · intro pending items depth st a s hrun
    rw [classItems_succ] at hrun
    obtain ⟨_, st', hskip, hrun⟩ := run_bind_eq_some_iff.1 hrun
    have hle := confined_skipBlanks.takes_zero st _ st' hskip
    have := (h.itemsAt pending items depth st'.flags st'.rest).2 st' a s hrun
    omega

theorem confinedClasses (fuel : Nat) : ConfinedClasses fuel := by
  induction fuel with
  | zero => exact ⟨.failure, fun _ _ _ ↦ .failure, takes_failure, fun _ _ _ ↦ takes_failure⟩
  | succ fuel ih => exact confinedClasses_succ ih

end AssessmentItem.Pattern
