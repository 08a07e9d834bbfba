import Mathlib.Algebra.Order.Group.Multiset
import Mathlib.Data.Set.List
import AssessmentItem.Evaluation.Basic
import AssessmentItem.Proofs.Evaluation.ResultTypes

/-!
# Scores of points by areas

An area mapping scores every area once that is hit by a point of a response, and the default for
every point outside all areas.  The points are gone through in their order with the numbers of the
areas hit so far.  A point whose areas have all been hit before adds nothing, and is not taken for
one outside all areas.  Which areas are hit, and how many points lie outside, does not depend on
the order of the points.

## Main definitions

* `AreaEntry.Surrounds` : the points in the area of an entry.
* `ScoreTable.hit`, `ScoreTable.Misses` : the entries that points hit, and the points that miss all.
* `Evaluation.areaScores` : the scores of points.
* `Evaluation.AreaMappingLaws` : what an area mapping makes of a response.

## Main results

* `Evaluation.pointScores_eq` : the scores that are added up after some areas have been hit.
* `Evaluation.areaMappingLaws` : what an area mapping makes of a response.
-/

namespace AssessmentItem

/-! ### Areas that are hit -/

/-- The point `p` lies in the area of an entry. -/
def AreaEntry.Surrounds (entry : AreaEntry) (p : Int64 × Int64) : Prop :=
  entry.area.contains p.1 p.2 = true

instance (entry : AreaEntry) (p : Int64 × Int64) : Decidable (entry.Surrounds p) :=
  inferInstanceAs (Decidable (_ = true))

namespace ScoreTable

variable (mapping : AreaMapping)

/-- The entries whose area some one of `points` lies in, each of them once. -/
def hit (points : List (Int64 × Int64)) : List AreaEntry :=
  mapping.entries.filter fun e ↦ ∃ p ∈ points, e.Surrounds p

/-- The point `p` lies in no area. -/
def Misses (p : Int64 × Int64) : Prop := ∀ e ∈ mapping.entries, ¬e.Surrounds p

instance (p : Int64 × Int64) : Decidable (mapping.Misses p) :=
  inferInstanceAs (Decidable (∀ e ∈ mapping.entries, _))

/-- The `entries` of a mapping with their numbers. -/
def numbered : List (Nat × AreaEntry) :=
  mapping.entries.zipIdx.map fun e ↦ (e.2, e.1)

theorem map_snd_numbered : mapping.numbered.map (·.2) = mapping.entries := by
  rw [numbered, List.map_map]
  exact List.zipIdx_map_fst 0 mapping.entries

theorem nodup_numbered : (mapping.numbered.map (·.1)).Nodup := by
  rw [numbered, List.map_map]
  exact List.zipIdx_map_snd 0 mapping.entries ▸ List.nodup_range'

variable {mapping}

theorem misses_iff {p : Int64 × Int64} :
    mapping.Misses p ↔ ∀ e ∈ mapping.numbered, ¬e.2.Surrounds p := by
  rw [Misses, ← map_snd_numbered, List.forall_mem_map]

end ScoreTable

namespace Evaluation

/-- The score of every area that some one of `points` lies in, and `defaultScore` for every point
that lies in none. -/
def areaScores (mapping : AreaMapping) (points : List (Int64 × Int64)) : Multiset Float :=
  ((mapping.hit points).map (·.score) : List Float) +
    Multiset.replicate (points.countP (mapping.Misses ·)) mapping.defaultScore

/-! ### Going through the points -/

section Steps

variable {entries : List (Nat × AreaEntry)} {p : Int64 × Int64} {points : List (Int64 × Int64)}

/-- The entries with a number that is not in `before`, whose area some one of `points` lies in. -/
def newlyHit (entries : List (Nat × AreaEntry)) (before : List Nat)
    (points : List (Int64 × Int64)) : List (Nat × AreaEntry) :=
  entries.filter fun e ↦ e.1 ∉ before ∧ ∃ p ∈ points, e.2.Surrounds p

theorem mem_newlyHit_iff {before : List Nat} {e : Nat × AreaEntry} :
    e ∈ newlyHit entries before points ↔
      e ∈ entries ∧ e.1 ∉ before ∧ ∃ p ∈ points, e.2.Surrounds p := by
  rw [newlyHit, List.mem_filter, decide_eq_true_iff]

/-- The numbers of the areas that the point `p` hits. -/
theorem number_mem_newlyHit_iff (distinct : (entries.map (·.1)).Nodup) (before : List Nat)
    {e : Nat × AreaEntry} (he : e ∈ entries) :
    e.1 ∈ (newlyHit entries before [p]).map (·.1) ↔ e.1 ∉ before ∧ e.2.Surrounds p := by
  rw [List.mem_map]
  constructor
  · rintro ⟨e', he', hsame⟩
    obtain ⟨hmem, hnew, q, hq, hsurrounds⟩ := mem_newlyHit_iff.1 he'
    obtain rfl := List.inj_on_of_nodup_map distinct hmem he hsame
    obtain rfl := List.mem_singleton.1 hq
    exact ⟨hnew, hsurrounds⟩
  · rintro ⟨hnew, hsurrounds⟩
    exact ⟨e, mem_newlyHit_iff.2 ⟨he, hnew, p, List.mem_singleton_self p, hsurrounds⟩, rfl⟩

/-- The areas that `p` hits are not hit again by the `points` after it. -/
theorem newlyHit_cons (distinct : (entries.map (·.1)).Nodup) (before : List Nat) :
    (newlyHit entries before (p :: points)).Perm
      (newlyHit entries before [p] ++
        newlyHit entries (before ++ (newlyHit entries before [p]).map (·.1)) points) := by
  have hnumber (e) (he : e ∈ entries) :=
    number_mem_newlyHit_iff (p := p) distinct before he
  generalize (newlyHit entries before [p]).map (·.1) = numbers at hnumber ⊢
  refine (List.filter_append_perm (fun e ↦ decide (e.2.Surrounds p)) _).symm.trans (.of_eq ?_)
  rw [newlyHit, newlyHit, newlyHit, List.filter_filter, List.filter_filter]
  congr 1 <;> refine List.filter_congr fun e he ↦ Bool.eq_iff_iff.2 ?_
  · simp only [Bool.and_eq_true, decide_eq_true_iff, List.exists_mem_cons_iff, List.not_mem_nil,
      false_and, exists_false, or_false]
    tauto
  · simp only [Bool.and_eq_true, Bool.not_eq_true', decide_eq_false_iff_not, decide_eq_true_iff,
      List.exists_mem_cons_iff, List.mem_append, hnumber e he]
    tauto

/-- The scores that `pointScores` adds up after the areas in `before` have been hit. -/
theorem pointScores_eq (defaultScore : Float) (distinct : (entries.map (·.1)).Nodup)
    (before : List Nat) (points : List (Int64 × Int64)) :
    (pointScores defaultScore entries before points : Multiset Float) =
      ((newlyHit entries before points).map (·.2.score) : List Float) +
        Multiset.replicate (points.countP fun p ↦ ∀ e ∈ entries, ¬e.2.Surrounds p)
          defaultScore := by
  induction points generalizing before with
  | nil => simp [pointScores, newlyHit]
  | cons p points ih =>
    have hfresh : ((entries.filter fun e ↦ e.2.area.contains p.1 p.2).filter
        fun e ↦ !before.contains e.1) = newlyHit entries before [p] := by
      rw [newlyHit, List.filter_filter]
      refine List.filter_congr fun e _ ↦ Bool.eq_iff_iff.2 ?_
      simp [AreaEntry.Surrounds]
    have hmiss : (entries.filter fun e ↦ e.2.area.contains p.1 p.2).isEmpty = true ↔
        ∀ e ∈ entries, ¬e.2.Surrounds p := by
      rw [List.isEmpty_iff, List.filter_eq_nil_iff]
      rfl
    rw [pointScores]
    simp only [hfresh, hmiss]
    rw [← Multiset.coe_add, ih, Multiset.coe_eq_coe.2 ((newlyHit_cons distinct before).map _),
      List.map_append, ← Multiset.coe_add, List.countP_cons]
    by_cases hmissed : ∀ e ∈ entries, ¬e.2.Surrounds p
    · have hnone : newlyHit entries before [p] = [] := by
        rw [List.eq_nil_iff_forall_not_mem]
        intro e he
        obtain ⟨hmem, -, q, hq, hsurrounds⟩ := mem_newlyHit_iff.1 he
        exact hmissed e hmem (List.mem_singleton.1 hq ▸ hsurrounds)
      rw [if_pos hmissed, if_pos (decide_eq_true hmissed), hnone, Multiset.replicate_add]
      simp only [List.map_nil, Multiset.coe_nil, zero_add, Multiset.replicate_one]
      rw [add_left_comm, add_comm (Multiset.replicate _ _)]
      rfl
    · rw [if_neg hmissed, if_neg (by simpa using hmissed), add_zero, add_assoc]

/-- A point whose areas have all been hit before adds nothing to `pointScores`. -/
theorem pointScores_insert (defaultScore : Float) (hinside : ∃ e ∈ entries, e.2.Surrounds p)
    (before : List Nat) {earlier later : List (Int64 × Int64)}
    (hhit : ∀ e ∈ entries, e.2.Surrounds p → e.1 ∈ before ∨ ∃ q ∈ earlier, e.2.Surrounds q) :
    pointScores defaultScore entries before (earlier ++ p :: later) =
      pointScores defaultScore entries before (earlier ++ later) := by
  induction earlier generalizing before with
  | nil =>
    have haround : (entries.filter fun e ↦ e.2.area.contains p.1 p.2).isEmpty = false := by
      rw [List.isEmpty_eq_false_iff_exists_mem]
      obtain ⟨e, he, hsurrounds⟩ := hinside
      exact ⟨e, List.mem_filter.2 ⟨he, hsurrounds⟩⟩
    have hfresh : ((entries.filter fun e ↦ e.2.area.contains p.1 p.2).filter
        fun e ↦ !before.contains e.1) = [] := by
      rw [List.filter_eq_nil_iff]
      intro e he
      obtain ⟨hmem, hsurrounds⟩ := List.mem_filter.1 he
      simpa using hhit e hmem hsurrounds
    rw [List.nil_append, List.nil_append, pointScores]
    simp only [haround, hfresh]
    simp
  | cons q earlier ih =>
    rw [List.cons_append, List.cons_append, pointScores, pointScores]
    congr 1
    refine ih _ fun e he hsurrounds ↦ ?_
    by_cases hnumber : e.1 ∈ before
    · exact .inl (List.mem_append_left _ hnumber)
    · obtain ⟨q', hq', hsurrounds'⟩ := (hhit e he hsurrounds).resolve_left hnumber
      obtain rfl | hq' := List.mem_cons.1 hq'
      · refine .inl (List.mem_append_right _ (List.mem_map.2 ⟨e, ?_, rfl⟩))
        exact List.mem_filter.2 ⟨List.mem_filter.2 ⟨he, hsurrounds'⟩, by simpa using hnumber⟩
      · exact .inr ⟨q', hq', hsurrounds'⟩

end Steps

/-! ### Responses -/

/-- The scores that `pointScores` gives for `points`, when none has been hit. -/
theorem pointScores_numbered (mapping : AreaMapping) (points : List (Int64 × Int64)) :
    (pointScores mapping.defaultScore mapping.numbered [] points : Multiset Float) =
      areaScores mapping points := by
  have hhit : (newlyHit mapping.numbered [] points).map (·.2) = mapping.hit points := by
    rw [ScoreTable.hit, ← mapping.map_snd_numbered, List.filter_map, newlyHit]
    simp only [List.not_mem_nil, not_false_eq_true, true_and]
    rfl
  rw [pointScores_eq _ mapping.nodup_numbered, areaScores, ← hhit, List.map_map]
  simp only [← ScoreTable.misses_iff]
  rfl

/-- A response with points is scored by its area mapping with `x`, without a draw. -/
def ScoresPoints (store : Store) (identifier : String) (x : Float) : Prop :=
  ∀ (scope : Scope) (id : NodeId) (children : List ExpressionTree) (g : Generator),
    scope.store = store →
      (evaluate scope (.node id (.leaf (.mapResponsePoint identifier)) children)).run g =
        (.ok (.float x), g)

/-- The `.point` of a pair of coordinates. -/
def pointScalar (p : Int64 × Int64) : Scalar := .point p.1 p.2

/-- The value is a response with the given `points`, in their order. -/
structure HasPoints (v : Value) (points : List (Int64 × Int64)) : Prop where
  notNull : v.isNull = false
  notRecord : v.cardinality? ≠ some .record
  members : v.members = points.map pointScalar

/-- What `.mapResponsePoint` makes of a response with the area mapping `mapping`. -/
structure AreaMappingLaws (store : Store) (identifier : String) (mapping : AreaMapping)
    (v : Value) : Prop where
  /-- A response that is `.null` has the default score. -/
  null : v.isNull → ScoresPoints store identifier (mapping.clamp mapping.defaultScore)
  /-- A value of base type `.point` that is not NULL, of any cardinality, has points. -/
  hasPoints : v.isNull = false → v.baseType? = some .point → ∃ points, HasPoints v points
  /-- The score of every area that is hit is added up once, and the default once for every point
  outside all areas, as `areaScores` says; the total is brought within the bounds last. -/
  points {points : List (Int64 × Int64)} : HasPoints v points →
    ∃ scores : List Float, scores = areaScores mapping points ∧
      ScoresPoints store identifier (mapping.clamp (scores.foldl (· + ·) 0))
  perm {points points' : List (Int64 × Int64)} : points.Perm points' →
    areaScores mapping points = areaScores mapping points'
  /-- A point in areas that other points lie in adds nothing to `areaScores`. -/
  inside {before after : List (Int64 × Int64)} {p : Int64 × Int64} : ¬mapping.Misses p →
    (∀ e ∈ mapping.entries, e.Surrounds p → ∃ q ∈ before ++ after, e.Surrounds q) →
      areaScores mapping (before ++ p :: after) = areaScores mapping (before ++ after)
  /-- If those points come before it, the scores are even added up in the same order. -/
  late {w w' : Value} {before after : List (Int64 × Int64)} {p : Int64 × Int64} :
    HasPoints w (before ++ p :: after) → HasPoints w' (before ++ after) → ¬mapping.Misses p →
      (∀ e ∈ mapping.entries, e.Surrounds p → ∃ q ∈ before, e.Surrounds q) →
        scorePoints mapping identifier w = scorePoints mapping identifier w'

section Responses

variable {store : Store} {identifier : String} {slot : Slot} {mapping : AreaMapping} {v : Value}
  {points points' : List (Int64 × Int64)}

theorem areaScores_congr (hhit : mapping.hit points = mapping.hit points')
    (hmisses : points.countP (mapping.Misses ·) = points'.countP (mapping.Misses ·)) :
    areaScores mapping points = areaScores mapping points' := by
  rw [areaScores, areaScores, hhit, hmisses]

theorem hit_congr (h : ∀ e ∈ mapping.entries, (∃ p ∈ points, e.Surrounds p) ↔
    ∃ p ∈ points', e.Surrounds p) : mapping.hit points = mapping.hit points' :=
  List.filter_congr fun e he ↦ decide_eq_decide.2 (h e he)

theorem exists_hasPoints (hnull : v.isNull = false) (htype : v.baseType? = some .point) :
    ∃ points, HasPoints v points := by
  have hrecord : v.cardinality? ≠ some .record := by
    cases v with
    | record => nomatch htype
    | null | single | multiple | ordered => nofun
  have hrange : v.members ∈ Set.range (List.map pointScalar) := by
    rw [Set.range_list_map]
    intro s hs
    have hbase := (Value.baseType?_of_mem_members hrecord hs).symm.trans htype
    cases s with
    | point x y => exact ⟨(x, y), rfl⟩
    | _ => nomatch hbase
  obtain ⟨points, hpoints⟩ := hrange
  exact ⟨points, hnull, hrecord, hpoints.symm⟩

theorem scorePoints_eq (identifier : String) (h : HasPoints v points) :
    scorePoints mapping identifier v = .ok (.float (mapping.clamp
      ((pointScores mapping.defaultScore mapping.numbered [] points).foldl (· + ·) 0))) := by
  have hread : readPoints identifier v = .ok points := by
    rw [readPoints, h.members]
    exact mapM_map_eq_ok points fun _ _ ↦ rfl
  rw [scorePoints, if_neg (by simp [h.notNull]), if_neg h.notRecord, hread]
  rfl

theorem scoresPoints_of_scorePoints {x : Float} (hslot : store.slot? identifier = some slot)
    (hmapping : slot.declaration.areaMapping? = some mapping)
    (h : scorePoints mapping identifier slot.value = .ok (.float x)) :
    ScoresPoints store identifier x := by
  rintro scope id children g rfl
  have hleaf : mappedPoints scope.store identifier = .ok (.float x) := by
    rw [mappedPoints, hslot]
    simp only [known, bind, Except.bind, hmapping, h]
  rw [evaluate, leafValue, hleaf]
  rfl

/-- An `AreaMapping` scores every area once that is hit, and every point outside all areas. -/
theorem areaMappingLaws (hslot : store.slot? identifier = some slot)
    (hmapping : slot.declaration.areaMapping? = some mapping) :
    AreaMappingLaws store identifier mapping slot.value where
  null hnull := by
    refine scoresPoints_of_scorePoints hslot hmapping ?_
    rw [scorePoints, if_pos hnull]
    rfl
  hasPoints := exists_hasPoints
  points {points} hpoints :=
    ⟨_, pointScores_numbered mapping points,
      scoresPoints_of_scorePoints hslot hmapping (scorePoints_eq identifier hpoints)⟩
  perm hperm := by
    refine areaScores_congr (hit_congr fun e _ ↦ ?_) (hperm.countP_eq _)
    simp only [hperm.mem_iff]
  inside {before after p} hinside hhit := by
    refine areaScores_congr (hit_congr fun e he ↦ ?_) ?_
    · constructor
      · rintro ⟨q, hq, hsurrounds⟩
        rw [List.mem_append, List.mem_cons] at hq
        obtain hq | rfl | hq := hq
        · exact ⟨q, List.mem_append_left _ hq, hsurrounds⟩
        · exact hhit e he hsurrounds
        · exact ⟨q, List.mem_append_right _ hq, hsurrounds⟩
      · rintro ⟨q, hq, hsurrounds⟩
        refine ⟨q, ?_, hsurrounds⟩
        rw [List.mem_append] at hq ⊢
        exact hq.imp_right (List.mem_cons_of_mem p)
    · rw [List.countP_append, List.countP_append, List.countP_cons_of_neg (by simpa using hinside)]
  late {w w' before after p} hw hw' hinside hhit := by
    rw [scorePoints_eq identifier hw, scorePoints_eq identifier hw', pointScores_insert]
    · simpa [ScoreTable.misses_iff] using hinside
    · rw [← mapping.map_snd_numbered, List.forall_mem_map] at hhit
      exact fun e he hsurrounds ↦ .inr (hhit e he hsurrounds)

/-- Two areas that have points in common. -/
def overlappingAreas : AreaMapping where
  entries := [⟨.rectangle 0 0 9 9, 1⟩, ⟨.circle 9 9 5, 1⟩]
  defaultScore := 0.5
  lowerBound := none
  upperBound := none

/-- Two points in both of `overlappingAreas`. -/
def closePoints : Container where
  baseType := .point
  members := [.point 8 8, .point 7 9]
  uniform := by decide

/-- The variable `RESPONSE` with the points of `closePoints`. -/
def markedSlot : Slot where
  declaration := ⟨"RESPONSE", .multiple, some .point, .null,
    .response ⟨.null, none, some overlappingAreas, .unlimited⟩⟩
  value := .multiple closePoints
  defaultOverride := none
  correctOverride := none

theorem areaMappingLaws_overlap :
    (Store.mk [markedSlot]).slot? "RESPONSE" = some markedSlot ∧
      markedSlot.declaration.areaMapping? = some overlappingAreas ∧
      ScoresPoints ⟨[markedSlot]⟩ "RESPONSE" 2 := by
  have hslot : (Store.mk [markedSlot]).slot? "RESPONSE" = some markedSlot := rfl
  have laws := areaMappingLaws hslot
    (rfl : markedSlot.declaration.areaMapping? = some overlappingAreas)
  refine ⟨hslot, rfl, ?_⟩
  have hpoints : HasPoints markedSlot.value [(8, 8), (7, 9)] := ⟨rfl, nofun, rfl⟩
  obtain ⟨scores, hscores, htotal⟩ := laws.points hpoints
  have hagain : areaScores overlappingAreas [(8, 8), (7, 9)] =
      areaScores overlappingAreas [(8, 8)] :=
    @laws.inside [(8, 8)] [] (7, 9) (by decide) (by decide +kernel)
  have hone : areaScores overlappingAreas [(8, 8)] = (List.replicate 2 1 : List Float) :=
    (pointScores_numbered overlappingAreas [(8, 8)]).symm
  rw [hagain, hone, Multiset.coe_eq_coe, List.perm_replicate] at hscores
  have hsum : overlappingAreas.clamp ((List.replicate 2 1).foldl (· + ·) 0) = 2 := by decide
  rwa [hscores, hsum] at htotal

end Responses

end Evaluation

end AssessmentItem
