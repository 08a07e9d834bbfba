import AssessmentItem.Proofs.Binary64.Operations
import AssessmentItem.Proofs.Processing.Assignments
import AssessmentItem.Proofs.Store.Typing

/-!
# Integers looked up in match tables

A rule that looks an integer up assigns the target of the first entry whose source has the
floating-point number of the integer, else the default of the table, else NULL.  That is the first
entry for the integer itself unless an entry before it shares the number.  No entry does so where
the integer or all the sources are below `2 ^ 53`.

## Main definitions

* `MatchEntry.targetOf?` : the target of the first entry for an integer, else the default.
* `Processing.Assigns` : a rule completes and leaves a value with its variable.
* `Processing.MatchTableLaws` : what a rule assigns that looks an integer up.

## Main results

* `MatchEntry.find?_ofInteger_eq` : when the first entry for a number is that for the integer.
* `Processing.run_lookup` : the run of a rule that looks a number up.
* `Processing.matchTableLaws` : integers looked up in a match table.
-/

namespace AssessmentItem

open Binary64

/-! ### Tables -/

namespace MatchEntry

variable {entries : List (MatchEntry Scalar)} {n : Int64}

/-- The target of the first of `entries` whose `source` is `n`, else the default. -/
def targetOf? (entries : List (MatchEntry Scalar)) (default? : Option Scalar) (n : Int64) :
    Option Scalar :=
  ((entries.find? fun e ↦ e.source == n).map (·.target)).or default?

/-- The entries before the first one whose `source` is `n`. -/
def before (entries : List (MatchEntry Scalar)) (n : Int64) : List (MatchEntry Scalar) :=
  entries.takeWhile fun e ↦ e.source != n

/-- An entry `fits` the number of `n` exactly where one has the source `n`, if none before it shares
the number. -/
theorem find?_ofInteger_eq (h : ∀ e ∈ before entries n, e.fits (ofInteger n) = false) :
    (entries.find? fun e ↦ e.fits (ofInteger n)) = entries.find? fun e ↦ e.source == n := by
  induction entries with
  | nil => rfl
  | cons e entries ih =>
    by_cases he : e.source = n
    · have hfits : e.fits (ofInteger n) = true := he ▸ beq_ofInteger_self e.source
      simp only [List.find?_cons, hfits, beq_iff_eq.2 he]
    · have hne : (e.source == n) = false := beq_eq_false_iff_ne.2 he
      simp only [before, List.takeWhile_cons, bne, hne, Bool.not_false, if_true,
        List.forall_mem_cons] at h
      simp only [List.find?_cons, h.1, hne]
      exact ih h.2

/-- Only entries for integers from `2 ^ 53` on share the number of another integer. -/
theorem not_fits_of_small {e : MatchEntry Scalar} (hne : e.source ≠ n)
    (h : n.toInt.natAbs < 2 ^ 53 ∨ e.source.toInt.natAbs < 2 ^ 53) :
    e.fits (ofInteger n) = false := by
  refine Bool.eq_false_iff.2 fun hfits ↦ hne ?_
  obtain hn | he := h
  · exact (eq_of_beq_ofInteger hn (BEq.symm hfits)).symm
  · exact eq_of_beq_ofInteger he hfits

theorem ne_of_mem_before {e : MatchEntry Scalar} (he : e ∈ before entries n) : e.source ≠ n :=
  bne_iff_ne.1 (List.mem_takeWhile_imp (p := fun e : MatchEntry Scalar ↦ e.source != n) he)

end MatchEntry

namespace Processing

open Evaluation

/-! ### Rules that look a number up -/

/-- A rule ends with `.completed`, and its variable holds `v` then. -/
def Assigns (item : Item) (run : Run) (id : NodeId) (kind : AssignmentKind) (identifier : String)
    (e : ExpressionTree) (v : Value) : Prop :=
  ∃ run', (runRule item (.node id (.assign kind identifier e))).run run =
      (.ok .completed, run') ∧ run'.store.value? identifier = some v

theorem Assigns.unique {item : Item} {run : Run} {id : NodeId} {kind : AssignmentKind}
    {identifier : String} {e : ExpressionTree} {v w : Value}
    (hv : Assigns item run id kind identifier e v) (hw : Assigns item run id kind identifier e w) :
    v = w := by
  obtain ⟨run₁, hrun₁, hvalue₁⟩ := hv
  obtain ⟨run₂, hrun₂, hvalue₂⟩ := hw
  obtain ⟨-, rfl⟩ := Prod.mk.inj (hrun₁.symm.trans hrun₂)
  exact Option.some_inj.1 (hvalue₁.symm.trans hvalue₂)

/-- The scalar as a `.single`, or `.null` where there is none. -/
def scalarOrNull (s : Option Scalar) : Value := (s.map Value.single).getD .null

variable {item : Item} {run : Run} {id : NodeId} {identifier : String} {e : ExpressionTree}
  {d : VariableDeclaration} {g : Generator}

theorem run_value {v : Value}
    (hv : (evaluate ⟨item, run.store⟩ e).run run.generator = (.ok v, g)) :
    (value item e).run run = (.ok v, { run with generator := g }) := by
  let outcome := (evaluate ⟨item, run.store⟩ e).run run.generator
  change (outcome.1.mapError AuthoringError.evaluation, { run with generator := outcome.2 }) = _
  rw [show outcome = (.ok v, g) from hv]
  rfl

theorem run_target {kind : AssignmentKind} (hd : run.store.declaration? identifier = some d)
    (hkind : d.kind ∈ kind.targets) : (target kind identifier).run run = (.ok d, run) := by
  rw [target, run_bind_of_run_eq_ok (run_get run), hd]
  dsimp only
  rw [if_pos hkind]
  rfl

/-- A value that the declaration `Admits` is assigned. -/
theorem run_assign {kind : AssignmentKind} {v : Value}
    (hd : run.store.declaration? identifier = some d) (hv : d.Admits v) :
    (assign id kind identifier v).run run =
      (.ok (), { run with
        store := run.store.put (part kind) identifier v,
        assignments := run.assignments ++ [⟨identifier, v, kind, id⟩] }) := by
  have hwrite : run.store.write (part kind) identifier v =
      .ok (run.store.put (part kind) identifier v) :=
    Store.write_eq_ok_iff.2 ⟨d, v, hd, conform_of_admits hv, rfl⟩
  rw [assign, run_bind_of_run_eq_ok (run_get run), hwrite]
  rfl

theorem kind_of_table? {table : LookupTable} (h : d.table? = some table) : d.kind = .outcome := by
  obtain ⟨details, hdetails, -⟩ := Option.bind_eq_some_iff.1 h
  unfold VariableDeclaration.outcome? at hdetails
  rw [VariableDeclaration.kind]
  split at hdetails
  · rename_i houtcome
    rw [houtcome]
    rfl
  · nomatch hdetails

/-- A number is looked up in the table of a variable, and what `table.find?` gives is assigned. -/
theorem run_lookup {table : LookupTable} {s : Scalar} {x : Float}
    (hd : run.store.declaration? identifier = some d) (htable : d.table? = some table)
    (hadmits : d.Admits (scalarOrNull (table.find? x)))
    (hs : (evaluate ⟨item, run.store⟩ e).run run.generator = (.ok (.single s), g))
    (hx : s.number? = some x) :
    Assigns item run id .lookup identifier e (scalarOrNull (table.find? x)) := by
  have hkind : d.kind ∈ AssignmentKind.lookup.targets := by
    rw [kind_of_table? htable]
    exact List.mem_singleton_self _
  have hlookUp : (lookUp item d identifier e (.single s)).run { run with generator := g } =
      (.ok (scalarOrNull (table.find? x)), { run with generator := g }) := by
    rw [lookUp, htable]
    dsimp only
    rw [readSingle, hx]
    rfl
  have htarget : (target .lookup identifier).run { run with generator := g } =
      (.ok d, { run with generator := g }) := run_target hd hkind
  have hassign : (assign id .lookup identifier (scalarOrNull (table.find? x))).run
      { run with generator := g } = (.ok (), { run with
        store := run.store.put .value identifier (scalarOrNull (table.find? x)),
        generator := g,
        assignments := run.assignments ++
          [⟨identifier, scalarOrNull (table.find? x), .lookup, id⟩] }) := run_assign hd hadmits
  have hwrite : run.store.write .value identifier (scalarOrNull (table.find? x)) =
      .ok (run.store.put .value identifier (scalarOrNull (table.find? x))) :=
    Store.write_eq_ok_iff.2 ⟨d, _, hd, conform_of_admits hadmits, rfl⟩
  have hrun : (runRule item (.node id (.assign .lookup identifier e))).run run =
      (pure .completed : Processing Outcome).run { run with
        store := run.store.put .value identifier (scalarOrNull (table.find? x)),
        generator := g,
        assignments := run.assignments ++
          [⟨identifier, scalarOrNull (table.find? x), .lookup, id⟩] } := by
    rw [runRule, runAssignment, bind_assoc, run_bind_of_run_eq_ok (run_value hs), bind_assoc,
      run_bind_of_run_eq_ok htarget, if_pos rfl, bind_assoc, run_bind_of_run_eq_ok hlookUp,
      run_bind_of_run_eq_ok hassign]
  exact ⟨_, hrun, Store.value?_write_self hwrite hd (conform_of_admits hadmits)⟩

/-! ### Match tables -/

/-- What a `.lookup` rule assigns that looks the integer `n` up in the match table of its
variable. -/
structure MatchTableLaws (item : Item) (run : Run) (id : NodeId) (identifier : String)
    (e : ExpressionTree) (entries : List (MatchEntry Scalar)) (default? : Option Scalar)
    (n : Int64) : Prop where
  /-- The first entry counts whose `source` has the same floating-point number. -/
  rounded : Assigns item run id .lookup identifier e (scalarOrNull
    (((entries.find? fun entry ↦ ofInteger entry.source == ofInteger n).map (·.target)).or
      default?))
  /-- That is the first entry with the source `n` if none before it has the same number. -/
  exact : (∀ entry ∈ MatchEntry.before entries n, ¬ofInteger entry.source == ofInteger n) →
    Assigns item run id .lookup identifier e
      (scalarOrNull (MatchEntry.targetOf? entries default? n))
  small : n.toInt.natAbs < 2 ^ 53 ∨ (∀ entry ∈ entries, entry.source.toInt.natAbs < 2 ^ 53) →
    Assigns item run id .lookup identifier e
      (scalarOrNull (MatchEntry.targetOf? entries default? n))

variable {entries : List (MatchEntry Scalar)} {default? : Option Scalar} {n : Int64}

theorem mem_of_find?_eq_some {x : Float} {s : Scalar}
    (h : (LookupTable.exact entries default?).find? x = some s) :
    s ∈ entries.map (·.target) ∨ default? = some s := by
  obtain hfound | ⟨-, hdefault⟩ := Option.or_eq_some_iff.1 h
  · obtain ⟨entry, hentry, rfl⟩ := Option.map_eq_some_iff.1 hfound
    exact .inl (List.mem_map_of_mem (List.mem_of_find?_eq_some hentry))
  · exact .inr hdefault

/-- A `.lookup` rule looks integers up by their floating-point numbers. -/
theorem matchTableLaws (hd : run.store.declaration? identifier = some d)
    (htable : d.table? = some (.exact entries default?))
    (htargets : ∀ s, s ∈ entries.map (·.target) ∨ default? = some s → d.Admits (.single s))
    (hn : (evaluate ⟨item, run.store⟩ e).run run.generator = (.ok (.integer n), g)) :
    MatchTableLaws item run id identifier e entries default? n := by
  have hrounded : Assigns item run id .lookup identifier e
      (scalarOrNull ((LookupTable.exact entries default?).find? (ofInteger n))) := by
    refine run_lookup hd htable ?_ hn rfl
    cases hfound : (LookupTable.exact entries default?).find? (ofInteger n) with
    | none => exact d.admits_null
    | some s => exact htargets s (mem_of_find?_eq_some hfound)
  have hexact (h : ∀ entry ∈ MatchEntry.before entries n, entry.fits (ofInteger n) = false) :
      Assigns item run id .lookup identifier e
        (scalarOrNull (MatchEntry.targetOf? entries default? n)) := by
    rwa [LookupTable.find?, MatchEntry.find?_ofInteger_eq h] at hrounded
  refine ⟨hrounded, fun h ↦ hexact fun entry hentry ↦ Bool.eq_false_iff.2 (h entry hentry),
    fun h ↦ hexact fun entry hentry ↦ ?_⟩
  refine MatchEntry.not_fits_of_small (MatchEntry.ne_of_mem_before hentry)
    (h.imp_right fun hall ↦ hall entry ?_)
  exact (List.takeWhile_sublist _).subset hentry

/-- An outcome `GRADE` that grades numbers by a table without a default. -/
def gradeDeclaration (entries : List (MatchEntry Scalar)) : VariableDeclaration :=
  ⟨"GRADE", .single, some .identifier, .null,
    .outcome { OutcomeDetails.plain with table := some (.exact entries none) }⟩

/-- Entries for two integers of which `ofInteger` gives one number. -/
def neighbouringEntries : List (MatchEntry Scalar) :=
  [⟨9007199254740993, .identifier "ABOVE"⟩, ⟨9007199254740992, .identifier "AT"⟩]

/-- An item that declares `GRADE` and has no rules. -/
def gradingItem : Item :=
  ⟨"grading", "", false, [gradeDeclaration neighbouringEntries], ⟨.empty, .empty⟩, [], []⟩

/-- A run that starts with a fresh slot for `GRADE` alone. -/
def gradingRun : Run :=
  ⟨⟨[.fresh (gradeDeclaration neighbouringEntries)]⟩, .ofSeed 0, []⟩

theorem gradeDeclaration_admits (name : String) :
    (gradeDeclaration entries).Admits (.single (.identifier name)) :=
  ⟨trivial, .inr ⟨rfl, fun _ ↦ rfl⟩⟩

theorem neighbouringEntries_targets (s : Scalar)
    (h : s ∈ neighbouringEntries.map (·.target) ∨ (none : Option Scalar) = some s) :
    (gradeDeclaration neighbouringEntries).Admits (.single s) := by
  obtain h | h := h
  · simp only [neighbouringEntries, List.map_cons, List.map_nil, List.mem_cons,
      List.not_mem_nil, or_false] at h
    obtain rfl | rfl := h <;> exact gradeDeclaration_admits _
  · nomatch h

/-- The expression of a `.baseValue` that is the integer `n`. -/
def literal (n : Int64) : ExpressionTree := .node 0 (.leaf (.baseValue (.integer n))) []

theorem matchTableLaws_neighbours :
    gradingRun.store.declaration? "GRADE" = some (gradeDeclaration neighbouringEntries) ∧
      (gradeDeclaration neighbouringEntries).table? = some (.exact neighbouringEntries none) ∧
      (∀ s, s ∈ neighbouringEntries.map (·.target) ∨ (none : Option Scalar) = some s →
        (gradeDeclaration neighbouringEntries).Admits (.single s)) ∧
      (evaluate ⟨gradingItem, gradingRun.store⟩ (literal 9007199254740993)).run (.ofSeed 0) =
        (.ok (.integer 9007199254740993), .ofSeed 0) ∧
      Assigns gradingItem gradingRun 0 .lookup "GRADE" (literal 9007199254740993)
        (.single (.identifier "ABOVE")) := by
  have hlaws : MatchTableLaws gradingItem gradingRun 0 "GRADE" (literal 9007199254740993)
      neighbouringEntries none 9007199254740993 :=
    matchTableLaws (d := gradeDeclaration neighbouringEntries) (g := .ofSeed 0) rfl rfl
      neighbouringEntries_targets rfl
  exact ⟨rfl, rfl, neighbouringEntries_targets, rfl, hlaws.exact (List.forall_mem_nil _)⟩

/-- The entry for `9007199254740993` itself is not reached. -/
theorem entry_lost_behind_neighbour :
    MatchEntry.targetOf? neighbouringEntries none 9007199254740992 = some (.identifier "AT") ∧
      Assigns gradingItem gradingRun 0 .lookup "GRADE" (literal 9007199254740992)
        (.single (.identifier "ABOVE")) ∧
      ¬Assigns gradingItem gradingRun 0 .lookup "GRADE" (literal 9007199254740992)
        (.single (.identifier "AT")) := by
  have hfits : (⟨9007199254740993, .identifier "ABOVE"⟩ : MatchEntry Scalar).fits
      (ofInteger 9007199254740992) = true := by decide
  have hfound : (LookupTable.exact neighbouringEntries none).find? (ofInteger 9007199254740992) =
      some (.identifier "ABOVE") := by
    simp only [LookupTable.find?, neighbouringEntries, List.find?_cons, hfits]
    rfl
  have habove : Assigns gradingItem gradingRun 0 .lookup "GRADE" (literal 9007199254740992)
      (scalarOrNull ((LookupTable.exact neighbouringEntries none).find?
        (ofInteger 9007199254740992))) := by
    refine run_lookup (d := gradeDeclaration neighbouringEntries) (g := .ofSeed 0) rfl rfl ?_ rfl
      rfl
    rw [hfound]
    exact gradeDeclaration_admits _
  rw [hfound] at habove
  refine ⟨rfl, habove, fun hat ↦ ?_⟩
  have hne : ("ABOVE" : String) ≠ "AT" := by decide
  exact hne (Scalar.identifier.inj (Value.single.inj (habove.unique hat)))

end Processing

end AssessmentItem
