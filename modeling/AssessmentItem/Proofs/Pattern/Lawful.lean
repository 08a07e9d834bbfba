import AssessmentItem.Proofs.Pattern.Matching
import AssessmentItem.Proofs.Pattern.Rounds

/-!
# The laws of the reader

The reader of patterns has the laws that are asked of a library: it goes through a text from left to
right and stops at a closing parenthesis that nothing opens, it takes a group between the anchors as
one part, its limits hold for the parts of a pattern too, and its patterns match part by part.

## Main definitions

* `Pattern.semantics` : the patterns of the reader, with what they match.

## Main results

* `Pattern.lawful` : the reader is `PatternLibrary.Lawful`.
-/

namespace AssessmentItem.Pattern

open PatternLibrary PatternSemantics

variable {α β : Type} {st s : ReaderState} {sized : Sized} {cs : List Char}

instance semantics : PatternSemantics where
  textStart := ⟨assertion .textStart, 0⟩
  textEnd := ⟨assertion .textEnd, 0⟩
  group sized := ⟨sized.pattern, sized.depth + 1⟩
  sequence parts := Pattern.sequence (parts.map some)
  Matches sized text := sized.pattern.Matches text.toList.toArray

/-! ### Where a reading stops -/

/-- At a state, the reader stops at the end of the text or in front of a `')'`. -/
def StopsAt (r : Reader α) (st : ReaderState) : Prop :=
  ∀ a s, r.run st = some (a, s) → s.rest = [] ∨ ∃ after, s.rest = ')' :: after

theorem StopsAt.bind {r : Reader α} {f : α → Reader β} (h : ∀ a s, StopsAt (f a) s) :
    StopsAt (r >>= f) st := by
  intro b t hrun
  obtain ⟨a, s, -, hrest⟩ := run_bind_eq_some_iff.1 hrun
  exact h a s b t hrest

theorem StopsAt.get_bind {f : ReaderState → Reader α} (h : StopsAt (f st) st) :
    StopsAt (get >>= f) st := h

theorem StopsAt.peek_bind {f : Option Char → Reader α} (h : StopsAt (f st.rest.head?) st) :
    StopsAt (peek >>= f) st := h

theorem stopsAt_pure (a : α) (h : st.rest = [] ∨ ∃ after, st.rest = ')' :: after) :
    StopsAt (pure a : Reader α) st := by
  rintro _ _ ⟨⟩
  exact h

/-- A `body` ends where no alternative follows, or where a `')'` does. -/
theorem stopsAt_body (fuel : Nat) (branches : List Sized) (items : List Item) (st : ReaderState) :
    StopsAt (body fuel branches items) st := by
  induction fuel generalizing branches items st with
  | zero => exact fun _ _ ↦ nofun
  | succ fuel ih =>
    have hrepeat (items : List Item) (least : Nat) (most : Option Nat) (t : ReaderState) :
        StopsAt (repeatLast items least most >>= fun items ↦ body fuel branches items) t :=
      .bind fun _ ↦ ih _ _
    have hpiece (flags : Flags) (piece : Piece) (t : ReaderState) :
        StopsAt (ofPiece flags piece >>= fun p ↦ body fuel branches (some ⟨p, 0⟩ :: items)) t :=
      .bind fun _ ↦ ih _ _
    rw [body]
    refine .bind fun _ t ↦ .get_bind (.peek_bind ?_)
    generalize hnext : t.rest.head? = next
    split
    · exact stopsAt_pure _ (.inl (List.head?_eq_none_iff.1 hnext))
    · obtain ⟨after, hafter⟩ := List.head?_eq_some_iff.1 hnext
      exact stopsAt_pure _ (.inr ⟨after, hafter⟩)
    · exact .bind fun _ ↦ ih _ _
    · refine .bind fun head t ↦ ?_
      cases head with
      | flags => exact .bind fun _ ↦ ih _ _
      | group => exact .bind fun _ t ↦ .bind fun _ t ↦ .bind fun _ t ↦ .bind fun _ ↦ ih _ _
    · exact .bind fun _ t ↦ .bind fun _ ↦ ih _ _
    · exact .bind fun _ ↦ hrepeat _ _ _
    · exact .bind fun _ ↦ hrepeat _ _ _
    · exact .bind fun _ ↦ hrepeat _ _ _
    · exact .bind fun _ ↦ hrepeat _ _ _
    · refine .bind fun c t ↦ ?_
      dsimp only
      split
      all_goals exact .bind fun piece ↦ hpiece _ piece

/-! ### Readings -/

theorem reading?_eq_some_iff {r : PatternReading Sized} :
    reading? cs = some r ↔ ∃ sized st, (body (cs.length + 1) [] []).run ⟨cs, {}, []⟩ =
      some (sized, st) ∧ r = ⟨sized, st.rest, st.flags.spaced⟩ := by
  change Option.map _ _ = some r ↔ _
  rw [Option.map_eq_some_iff]
  constructor
  · rintro ⟨⟨sized, st⟩, hrun, rfl⟩
    exact ⟨sized, st, hrun, rfl⟩
  · rintro ⟨sized, st, hrun, rfl⟩
    exact ⟨⟨sized, st⟩, hrun, rfl⟩

/-- What `reading?` gives for a text `body` reads with any `fuel` beyond its length. -/
theorem run_body_of_reading? {fuel : Nat} {r : PatternReading Sized} (h : reading? cs = some r)
    (hfuel : cs.length < fuel) : ∃ st, (body fuel [] []).run ⟨cs, {}, []⟩ = some (r.regex, st) ∧
      st.rest = r.rest ∧ st.flags.spaced = r.spaced := by
  obtain ⟨sized, st, hrun, rfl⟩ := reading?_eq_some_iff.1 h
  exact ⟨st, (run_body_eq hfuel (Nat.lt_succ_self _)).trans hrun, rfl, rfl⟩

theorem reading?_of_run_body {fuel : Nat} (hfuel : cs.length < fuel)
    (h : (body fuel [] []).run ⟨cs, {}, []⟩ = some (sized, st)) :
    reading? cs = some ⟨sized, st.rest, st.flags.spaced⟩ :=
  reading?_eq_some_iff.2 ⟨sized, st, (run_body_eq (Nat.lt_succ_self _) hfuel).trans h, rfl⟩

theorem length_lt_append (cs : List Char) : cs.length < (cs ++ [')', '$']).length + 1 :=
  Nat.lt_succ_of_le (List.sublist_append_left _ _).length_le

theorem readsForward : ReadsForward where
  rest_suffix {cs r} h := by
    obtain ⟨st, hrun, hrest, -⟩ := run_body_of_reading? h (Nat.lt_succ_self _)
    rw [← hrest]
    exact (confined_body _ [] [] ⟨cs, {}, []⟩).rest_suffix _ _ hrun
  rest_eq {cs r} h := by
    obtain ⟨st, hrun, hrest, -⟩ := run_body_of_reading? h (Nat.lt_succ_self _)
    rw [← hrest]
    exact stopsAt_body _ [] [] ⟨cs, {}, []⟩ _ _ hrun
  onward {cs r} h hnil hcomment := by
    obtain ⟨st, hrun, hrest, hspaced⟩ := run_body_of_reading? h (length_lt_append cs)
    rcases (confined_body _ [] [] ⟨cs, {}, []⟩).onward _ _ hrun with hclosed | ⟨-, hopen⟩
    · rw [reading?_of_run_body (Nat.lt_succ_self _) hclosed, ReaderState.rest_closed, hrest, hnil,
        ← hspaced]
      rfl
    · rw [hspaced] at hopen
      exact absurd hopen hcomment
  back {cs r} h hle := by
    obtain ⟨st, hrun, hrest, hspaced⟩ := run_body_of_reading? h (Nat.lt_succ_self _)
    rw [← hrest] at hle
    obtain ⟨own, hown, rfl⟩ :=
      ((confined_body _ [] [] ⟨cs, {}, []⟩).back _ _ hrun hle).resolve_right id
    refine ⟨_, reading?_of_run_body (length_lt_append cs) hown, ?_⟩
    obtain ⟨regex, rest, spaced⟩ := r
    cases hrest
    cases hspaced
    rfl

/-! ### Groups between the anchors -/

/-- The reader of the alternatives in the group, and of what follows it. -/
def groupInAnchors (fuel : Nat) : Reader Sized := do
  let group ← body fuel [] []
  expect ')'
  modify fun st ↦ { st with flags := {} }
  body fuel [] [some ⟨group.pattern, group.depth + 1⟩, some ⟨assertion .textStart, 0⟩]

theorem run_body_anchored (fuel : Nat) (cs : List Char) :
    (body (fuel + 2) [] []).run ⟨'^' :: '(' :: '?' :: ':' :: cs, {}, []⟩ =
      (groupInAnchors fuel).run ⟨cs, {}, []⟩ := by
  rfl

theorem run_body_textEnd (fuel : Nat) (sized : Sized) (names : List (List Char)) :
    (body (fuel + 2) [] [some ⟨sized.pattern, sized.depth + 1⟩, some ⟨assertion .textStart, 0⟩]).run
        ⟨['$'], {}, names⟩ = some (enclosed sized, ⟨[], {}, names⟩) := by
  rfl

/-- Where `[')', '$']` is left, the group ends with it. -/
theorem run_groupInAnchors {fuel : Nat} (h : (body (fuel + 2) [] []).run st = some (sized, s))
    (hrest : s.rest = [')', '$']) :
    (groupInAnchors (fuel + 2)).run st = some (enclosed sized, ⟨[], {}, s.names⟩) := by
  obtain ⟨rest, flags, names⟩ := s
  obtain rfl : rest = [')', '$'] := hrest
  rw [groupInAnchors, run_bind_of_run_eq h]
  exact run_body_textEnd fuel sized names

/-- Where nothing is left, the group is not closed. -/
theorem run_groupInAnchors_eq_none {fuel : Nat}
    (h : ∀ sized s, (body fuel [] []).run st = some (sized, s) → s.rest = []) :
    (groupInAnchors fuel).run st = none := by
  refine Option.eq_none_iff_forall_ne_some.2 fun ⟨b, t⟩ hrun ↦ ?_
  obtain ⟨sized, s, hbody, hrun⟩ := run_bind_eq_some_iff.1 hrun
  obtain ⟨_, s', hexpect, -⟩ := run_bind_eq_some_iff.1 hrun
  obtain ⟨cs, hrest, -⟩ := run_expect_eq_some_iff.1 hexpect
  exact absurd ((h sized s hbody).symm.trans hrest) (List.cons_ne_nil _ _).symm

theorem readsGroups : ReadsGroups where
  closed {cs r} h hrest := by
    have hfuel : cs.length < cs.length + 1 + 2 := by omega
    obtain ⟨st, hrun, hst, -⟩ := run_body_of_reading? h hfuel
    refine reading?_eq_some_iff.2 ⟨enclosed r.regex, ⟨[], {}, st.names⟩, ?_, rfl⟩
    exact (run_body_anchored _ cs).trans (run_groupInAnchors hrun (hst.trans hrest))
  unclosed {cs} h := by
    refine Option.eq_none_iff_forall_ne_some.2 fun r hread ↦ ?_
    obtain ⟨sized, st, hrun, -⟩ := reading?_eq_some_iff.1 hread
    have hnone : (groupInAnchors (cs.length + 3)).run ⟨cs, {}, []⟩ = none :=
      run_groupInAnchors_eq_none fun sized s hbody ↦
        h _ (reading?_of_run_body (by omega) hbody)
    exact Option.some_ne_none _
      (hrun.symm.trans ((run_body_anchored (cs.length + 3) cs).trans hnone))

/-! ### Limits -/

theorem le_foldl_depth {parts : List Sized} {n d : Nat} (h : n ≤ d ∨ ∃ p ∈ parts, n ≤ p.depth) :
    n ≤ parts.foldl (fun d p ↦ max d p.depth) d := by
  induction parts generalizing d with
  | nil => simpa using h
  | cons q parts ih =>
    refine ih ?_
    rcases h with h | ⟨p, hp, h⟩
    · exact .inl (Nat.le_trans h (Nat.le_max_left d _))
    · rcases List.mem_cons.1 hp with rfl | hp
      · exact .inl (Nat.le_trans h (Nat.le_max_right d _))
      · exact .inr ⟨p, hp, h⟩

theorem depth_le_sequence {parts : List Sized} (h : sized ∈ parts) :
    sized.depth ≤ (Pattern.sequence (parts.map some)).depth := by
  have hle : sized.depth ≤ parts.foldl (fun d p ↦ max d p.depth) 0 :=
    le_foldl_depth (.inr ⟨sized, h, Nat.le_refl _⟩)
  simp only [Pattern.sequence, List.filterMap_map, Function.id_comp, List.filterMap_some]
  split
  · exact Nat.le_succ_of_le hle
  · exact hle

theorem size_le_concats {p : Pattern} {ps : List Pattern} (h : p ∈ ps) :
    size p ≤ size (concats ps) := by
  induction ps with
  | nil => cases h
  | cons q qs ih =>
    cases qs with
    | nil =>
      rw [List.mem_singleton.1 h]
      exact Nat.le_refl _
    | cons q' qs =>
      change _ ≤ size q + size (concats (q' :: qs))
      rcases List.mem_cons.1 h with rfl | hmem
      · exact Nat.le_add_right _ _
      · exact Nat.le_trans (ih hmem) (Nat.le_add_left _ _)

theorem pattern_sequence (parts : List Sized) :
    (Pattern.sequence (parts.map some)).pattern = concats (parts.map (·.pattern)) := by
  simp only [Pattern.sequence, List.filterMap_map, Function.id_comp, List.filterMap_some]

theorem fits_iff {sized : Sized} :
    fits sized ↔ sized.depth ≤ maxDepth ∧ size sized.pattern ≤ maxSize := by
  change (decide _ && decide _) = true ↔ _
  rw [Bool.and_eq_true, decide_eq_true_iff, decide_eq_true_iff]

theorem boundsParts : BoundsParts where
  fits_of_group {sized} h := by
    obtain ⟨hdepth, hsize⟩ := fits_iff.1 h
    exact fits_iff.2 ⟨Nat.le_of_succ_le hdepth, hsize⟩
  fits_of_mem {parts sized} h hmem := by
    obtain ⟨hdepth, hsize⟩ := fits_iff.1 h
    have hpart : size sized.pattern ≤ size (Pattern.sequence (parts.map some)).pattern := by
      rw [pattern_sequence]
      exact size_le_concats (List.mem_map_of_mem hmem)
    exact fits_iff.2 ⟨Nat.le_trans (depth_le_sequence hmem) hdepth, Nat.le_trans hpart hsize⟩

/-! ### Matches -/

theorem size_toArray (text : String) : text.toList.toArray.size = text.length :=
  List.size_toArray.trans String.length_toList

theorem matchesParts : MatchesParts where
  le_length {sized text i j} h hi := by
    rw [← size_toArray] at hi ⊢
    exact (forward_matches text.toList.toArray sized.pattern i j hi h).2
  textStart_iff {text i j} hi := by
    rw [← size_toArray] at hi
    exact and_congr_left fun _ ↦ holds_textStart _ hi
  textEnd_iff {text i j} hi := by
    rw [← size_toArray] at hi ⊢
    exact and_congr_left fun _ ↦ holds_textEnd _ hi
  group_iff := Iff.rfl
  nil_iff := Iff.rfl
  cons_iff {sized parts text i k} := by
    have hpattern (parts : List Sized) (i j : Nat) :
        PatternSemantics.Matches (PatternSemantics.sequence parts) text i j ↔
          (concats (parts.map (·.pattern))).Matches text.toList.toArray i j := by
      rw [← pattern_sequence]
      exact Iff.rfl
    simp only [hpattern, List.map_cons]
    exact matches_concats_cons _ _ _ _ _
  occursIn_iff {sized text} := by
    rw [← String.length_toList]
    exact Pattern.occursIn_iff sized.pattern text

/-- The program's reader of patterns is `Lawful`. -/
theorem lawful : Lawful := ⟨readsForward, readsGroups, boundsParts, matchesParts⟩

end AssessmentItem.Pattern
