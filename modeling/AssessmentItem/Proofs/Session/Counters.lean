import AssessmentItem.Proofs.References.Rules
import AssessmentItem.Proofs.Response.Binding
import AssessmentItem.Proofs.Session.Traces

/-!
# Counters of a session

A session counts its attempts twice, those that have begun and those that are completed, and shows
the number of completed attempts to the rules as a variable.  The two counters and the state of the
session agree after every call, and so does the variable, unless the item declares it anew or its
rules change the default that it is put back to.

## Main definitions

* `Session.Counted` : the counters agree with the state and with the number of attempts allowed.
* `Session.KeepsAttempts` : an item leaves the variable of the attempts to the session.
* `Session.HoldsAttempts` : a store holds a number of attempts.

## Main results

* `Session.Step.counted`, `Session.Step.holdsAttempts` : every call keeps the agreement.
* `Session.counters_agree` : the counters after every trace of a new session.
-/

namespace AssessmentItem.Session

/-! ### The counters and the state -/

/-- The counters agree with the state: both are zero before the session is initialized; while it is
`interacting`, `attemptCount` is one more than `completedAttempts`; and no more attempts are
completed than an item that is not `adaptive` allows. -/
structure Counted (s : Session) : Prop where
  fresh : s.state = .notInitialized → s.attemptCount = 0 ∧ s.completedAttempts = 0
  interacting : s.state = .interacting → s.attemptCount = s.completedAttempts + 1
  closed : s.state = .closed → s.stage = .idle ∧
    (s.attemptCount = s.completedAttempts ∨ s.attemptCount = s.completedAttempts + 1)
  limit : s.item.adaptive = false → 0 < s.settings.maxAttempts →
    s.completedAttempts ≤ s.settings.maxAttempts.toNat ∧
      (s.state = .interacting → s.completedAttempts < s.settings.maxAttempts.toNat)

theorem counted_new (item : Item) (settings : DeliverySettings) (seed : UInt64) :
    (new item settings seed).Counted where
  fresh _ := ⟨rfl, rfl⟩
  interacting h := nomatch h
  closed h := nomatch h
  limit _ _ := ⟨Nat.zero_le _, fun h ↦ nomatch h⟩

theorem counted_started (s : Session) (store : Store) : (s.started store).Counted where
  fresh h := nomatch h
  interacting _ := rfl
  closed h := nomatch h
  limit _ hlimit := ⟨Nat.zero_le _, fun _ ↦ UInt32.lt_iff_toNat_lt.1 hlimit⟩

theorem lt_of_not_isExhausted {s : Session} (h : ¬s.isExhausted)
    (hadaptive : s.item.adaptive = false) (hlimit : 0 < s.settings.maxAttempts) :
    s.completedAttempts < s.settings.maxAttempts.toNat := by
  simpa [isExhausted, hadaptive, hlimit] using h

/-- The step `attemptCompleted` keeps the agreement. -/
theorem Counted.attemptCompleted {s : Session} (hs : s.Counted) (hstate : s.state = .interacting) :
    s.attemptCompleted.Counted := by
  have hcount := hs.interacting hstate
  rcases s.attemptCompleted_eq_or with h | ⟨hexhausted, h⟩ <;> rw [h]
  · constructor
    · exact nofun
    · exact nofun
    · exact fun _ ↦ ⟨rfl, .inl hcount⟩
    · exact fun hadaptive hlimit ↦ ⟨(hs.limit hadaptive hlimit).2 hstate, nofun⟩
  · constructor
    · exact fun h ↦ absurd (hstate.symm.trans h) nofun
    · exact fun _ ↦ rfl
    · exact fun h ↦ absurd (hstate.symm.trans h) nofun
    · intro hadaptive hlimit
      have hless := lt_of_not_isExhausted hexhausted hadaptive hlimit
      exact ⟨Nat.le_of_lt hless, fun _ ↦ hless⟩

theorem interacting_of_close {s : Session}
    (h : blockedReason? s.settings s.state .close = none) : s.state = .interacting := by
  by_cases hstate : s.state = .interacting
  · exact hstate
  · rw [blockedReason?, DeliverySettings.allows?, if_neg hstate] at h
    cases h

/-- Every call keeps the counters in agreement: `Counted` is an invariant of `Step`. -/
theorem Step.counted {s s' : Session} {request : Request} {result : Except SessionError Answer}
    (h : s.Step request result s') (hs : s.Counted) : s'.Counted := by
  cases h with
  | refused | unprepared | unreset | misprocessed | unrestored | elapsed | solved =>
    exact { hs with }
  | bound _ hstate | validated hstate =>
    exact { hs with closed := fun h ↦ absurd (hstate.symm.trans h) nofun }
  | started | restarted | reset => exact counted_started _ _
  | processed attempted noted =>
    exact Counted.attemptCompleted { hs with } attempted.interacting
  | closed available =>
    have hcount := hs.interacting (interacting_of_close available)
    constructor
    · exact nofun
    · exact nofun
    · exact fun _ ↦ ⟨rfl, .inr hcount⟩
    · exact fun hadaptive hlimit ↦ ⟨(hs.limit hadaptive hlimit).1, nofun⟩

/-! ### The variable of the attempts -/

/-- An item leaves `numAttempts` to the session: it does not declare it anew, and no rule assigns to
its default. -/
structure KeepsAttempts (item : Item) : Prop where
  declared : item.declaration? BuiltIn.numAttempts.identifier = some BuiltIn.numAttempts.declaration
  defaults : ∀ id e, item.layout.rules.get? id ≠
    some (.assign .defaultValue BuiltIn.numAttempts.identifier e)

/-- A store holds `n` as the value of `numAttempts`, and zero as its default. -/
structure HoldsAttempts (store : Store) (n : Nat) : Prop where
  declared : store.declaration? BuiltIn.numAttempts.identifier =
    some BuiltIn.numAttempts.declaration
  value : store.value? BuiltIn.numAttempts.identifier = some (.integer (Int64.ofNat n))
  default : store.default? BuiltIn.numAttempts.identifier = some (.integer 0)

namespace HoldsAttempts

variable {item : Item} {store store' : Store} {n : Nat} {x : String} {v : Value}

theorem ofItem (hitem : KeepsAttempts item) : HoldsAttempts (.ofItem item) 0 where
  declared := by
    rw [Store.declaration?, Store.slot?_ofItem, hitem.declared]
    rfl
  value := by
    rw [Store.value?, Store.slot?_ofItem, hitem.declared]
    rfl
  default := by
    rw [Store.default?, Store.slot?_ofItem, hitem.declared]
    rfl

/-- Another variable than `numAttempts` is written. -/
theorem write_of_ne (h : HoldsAttempts store n) (hw : store.write .value x v = .ok store')
    (hx : x ≠ BuiltIn.numAttempts.identifier) : HoldsAttempts store' n where
  declared := (Store.declaration?_congr (Store.declarations_write hw) _).trans h.declared
  value := (Store.value?_write_of_ne hw hx.symm).trans h.value
  default := (Store.default?_write_of_ne hw (.inl hx.symm)).trans h.default

/-- Another number `m` of attempts is written. -/
theorem write_self (h : HoldsAttempts store n) {m : Nat}
    (hw : store.write .value BuiltIn.numAttempts.identifier (.integer (Int64.ofNat m)) =
      .ok store') : HoldsAttempts store' m where
  declared := (Store.declaration?_congr (Store.declarations_write hw) _).trans h.declared
  value := Store.value?_write_self hw h.declared rfl
  default := (Store.default?_write_of_ne hw (.inr nofun)).trans h.default

theorem resetOutcomes (h : HoldsAttempts store n) :
    HoldsAttempts (store.resetKind .outcome) n where
  declared := (Store.declaration?_congr (store.declarations_resetKind _) _).trans h.declared
  value := by
    have hkind : BuiltIn.numAttempts.declaration.kind ≠ .outcome := by decide
    rw [Store.value?_resetKind_of_ne h.declared hkind, h.value]
  default := (Store.default?_resetKind _ _ _).trans h.default

theorem settleDefaults (h : HoldsAttempts store n) :
    HoldsAttempts (Session.settleDefaults store) 0 where
  declared := (Store.declaration?_congr (declarations_settleDefaults _) _).trans h.declared
  value := (value?_settleDefaults h.declared nofun).trans h.default
  default := (default?_settleDefaults _ _).trans h.default

theorem writeAll (h : HoldsAttempts store n) (values : List (String × Value))
    (hvalues : ∀ e ∈ values, e.1 ≠ BuiltIn.numAttempts.identifier) :
    HoldsAttempts (Session.writeAll store values).1 n :=
  writeAll_induction (P := fun store ↦ HoldsAttempts store n) values store h
    fun _ _ e he hw h ↦ h.write_of_ne hw (hvalues e he)

/-- The rules of an item that `KeepsAttempts` leave `numAttempts`. -/
theorem logged (h : HoldsAttempts store n) (hitem : KeepsAttempts item) {run : Run}
    (hrun : run.Logged item.layout.Holds store) : HoldsAttempts run.store n where
  declared := (Store.declaration?_congr hrun.replays.declarations_eq _).trans h.declared
  value := (hrun.replays.value?_of_response h.declared rfl).trans h.value
  default := by
    refine (hrun.replays.default?_eq fun a ha hid hkind ↦ ?_).trans h.default
    obtain ⟨e, he⟩ := hrun.noted a ha
    obtain ⟨value, hget⟩ := he.get?_eq_assign
    rw [hid, hkind] at hget
    exact hitem.defaults _ _ hget

theorem outcomesReset {s : Session} (h : HoldsAttempts s.store n)
    (hreset : s.OutcomesReset store) : HoldsAttempts store n := by
  cases hreset with
  | adaptive _ => exact h
  | reset _ _ written => exact h.resetOutcomes.write_of_ne written nofun

theorem noted {report : Report} (h : HoldsAttempts store n) (hnoted : Noted report store store') :
    HoldsAttempts store' n := by
  rcases hnoted.eq_or_written with rfl | hwritten
  · exact h
  · exact h.write_of_ne hwritten nofun

/-- What `heldAttempts` puts back after a failure is the number of attempts completed. -/
theorem heldAttempts_eq (h : HoldsAttempts store n) :
    heldAttempts store = .integer (Int64.ofNat n) := by
  rw [heldAttempts, h.value, Option.getD_some]

/-- A number `m` of attempts can always be put back. -/
theorem write_ne_error (h : HoldsAttempts store n) (m : Nat) {fault : AssignmentFault} :
    store.write .value BuiltIn.numAttempts.identifier (.integer (Int64.ofNat m)) ≠
      .error fault := by
  intro hw
  rcases Store.write_eq_error_iff.1 hw with ⟨hnone, -⟩ | ⟨d, hd, hconform⟩
  · exact absurd (h.declared.symm.trans hnone) nofun
  · obtain rfl := Option.some.inj (h.declared.symm.trans hd)
    cases hconform

/-- The rules of an attempt see the number of the attempt in `numAttempts`, and leave it. -/
theorem attempted {s : Session} (h : HoldsAttempts s.store n) (hitem : KeepsAttempts s.item)
    {base : Store} {result : Except AuthoringError Outcome} {run : Run}
    (hattempted : s.Attempted base result run) :
    HoldsAttempts base n ∧ HoldsAttempts run.store (s.completedAttempts + 1) := by
  have hbase := h.outcomesReset hattempted.outcomesReset
  obtain ⟨store, hstore, hlogged⟩ := hattempted.logged
  exact ⟨hbase, (hbase.write_self hstore).logged hitem hlogged⟩

theorem prepared (hitem : KeepsAttempts item) {tries : Nat} {generator generator' : Generator}
    (h : prepare item tries generator = (.ok store, generator')) : HoldsAttempts store 0 := by
  obtain ⟨run, rfl, hlogged⟩ := exists_replays_of_prepare h
  exact ((ofItem hitem).logged hitem hlogged).settleDefaults

end HoldsAttempts

/-- Every call keeps `numAttempts` at `completedAttempts`. -/
theorem Step.holdsAttempts {s s' : Session} {request : Request}
    {result : Except SessionError Answer} (h : s.Step request result s')
    (hitem : KeepsAttempts s.item) (hs : HoldsAttempts s.store s.completedAttempts) :
    HoldsAttempts s'.store s'.completedAttempts := by
  cases h with
  | refused | unprepared | validated | closed | solved => exact hs
  | started _ prepared | restarted _ prepared => exact .prepared hitem prepared
  | bound submission _ written _ =>
    have hall := hs.writeAll (s.item.bindResponses submission).1.entries fun e he ↦
      (identifier_of_mem_bindResponses he).2
    rw [written] at hall
    exact hall
  | unreset => exact hs.resetOutcomes
  | misprocessed attempted restored =>
    obtain ⟨hbase, hrun⟩ := hs.attempted hitem attempted
    rw [hbase.heldAttempts_eq] at restored
    exact hrun.write_self restored
  | unrestored attempted lost _ =>
    obtain ⟨hbase, hrun⟩ := hs.attempted hitem attempted
    rw [hbase.heldAttempts_eq] at lost
    exact absurd lost (hrun.write_ne_error _)
  | processed attempted noted =>
    rw [store_attemptCompleted, completedAttempts_attemptCompleted]
    exact (hs.attempted hitem attempted).2.noted noted
  | reset _ => exact hs.settleDefaults
  | elapsed _ _ written => exact hs.write_of_ne written nofun

/-! ### Every trace -/

/-- No more attempts are completed than there are `processings` among the events. -/
theorem Step.completedAttempts_le {s s' : Session} {request : Request}
    {result : Except SessionError Answer} (h : s.Step request result s') {events : List Event}
    (hs : s.completedAttempts ≤ processings events) :
    s'.completedAttempts ≤ processings ((request, result) :: events) := by
  have hmore := processings_le_cons (request, result) events
  cases h with
  | started | restarted | reset => exact Nat.zero_le _
  | processed =>
    rw [completedAttempts_attemptCompleted]
    exact Nat.succ_le_succ hs
  | _ => exact Nat.le_trans hs hmore

/-- The counters of a session agree after every trace of fewer than `2 ^ 32 - 1` `processings`:
`attemptCount` and `completedAttempts` with the `state` and with `maxAttempts`, and, where the item
leaves it to the session, `numAttempts` with `completedAttempts`. -/
theorem counters_agree {declarations : List VariableDeclaration} {item : Item}
    (declared : declareAll declarations = .ok item.declarations) {settings : DeliverySettings}
    {seed : UInt64} {events : List Event} {s : Session}
    (trace : (new item settings seed).Trace events s) (few : processings events < 4294967295) :
    s.attemptCount < 4294967296 ∧ s.completedAttempts < 4294967296 ∧
      (s.state = .notInitialized → s.attemptCount = 0 ∧ s.completedAttempts = 0) ∧
      (s.state = .interacting → s.attemptCount = s.completedAttempts + 1) ∧
      (s.state = .closed → s.stage = .idle ∧
        (s.attemptCount = s.completedAttempts ∨ s.attemptCount = s.completedAttempts + 1)) ∧
      (item.adaptive = false → 0 < settings.maxAttempts →
        s.completedAttempts ≤ settings.maxAttempts.toNat ∧
          (s.state = .interacting → s.completedAttempts < settings.maxAttempts.toNat)) ∧
      ((∀ d ∈ declarations, d.identifier ≠ BuiltIn.numAttempts.identifier) →
        (∀ id e, item.layout.rules.get? id ≠
          some (.assign .defaultValue BuiltIn.numAttempts.identifier e)) →
        ∃ n : Int64, s.value? BuiltIn.numAttempts.identifier = some (.integer n) ∧
          n.toInt = s.completedAttempts) := by
  have hsound := sound_new (declared_of_declareAll declared) settings seed
  obtain ⟨-, hitem, hsettings⟩ := trace.sound hsound
  have hcounted : s.Counted := trace.induction (P := fun _ s ↦ s.Counted) hsound
    (counted_new item settings seed) fun _ _ _ _ hs hstep ↦ hstep.counted hs
  have hfew : s.completedAttempts ≤ processings events :=
    trace.induction (P := fun events s ↦ s.completedAttempts ≤ processings events) hsound
      (Nat.zero_le _) fun _ _ _ _ hs hstep ↦ hstep.completedAttempts_le hs
  have hcount : s.attemptCount ≤ s.completedAttempts + 1 := by
    cases hstate : s.state with
    | notInitialized =>
      have := hcounted.fresh hstate
      omega
    | interacting => exact Nat.le_of_eq (hcounted.interacting hstate)
    | closed =>
      have := (hcounted.closed hstate).2
      omega
  refine ⟨by omega, by omega, hcounted.fresh, hcounted.interacting, hcounted.closed, ?_, ?_⟩
  · intro hadaptive hlimit
    have := hcounted.limit (by rw [hitem]; exact hadaptive) (by rw [hsettings]; exact hlimit)
    rw [hsettings] at this
    exact this
  · intro hdeclarations hdefaults
    have hkeeps : KeepsAttempts item := by
      refine ⟨?_, hdefaults⟩
      rw [Item.declaration?, findDeclaration?_declareAll_of_ne declared hdeclarations,
        findDeclaration?_builtIns]
    have hheld : HoldsAttempts s.store s.completedAttempts :=
      trace.induction (P := fun _ s ↦ HoldsAttempts s.store s.completedAttempts) hsound
        (.ofItem hkeeps) fun _ _ hitem _ hs hstep ↦ hstep.holdsAttempts (hitem ▸ hkeeps) hs
    refine ⟨_, hheld.value, ?_⟩
    rw [Int64.toInt_ofNat_of_lt]
    omega

/-- A session whose first attempt has been processed, of the two that `maxAttempts` allows. -/
def countingSession : Session :=
  let started := ((serve .start).run (new countingItem { maxAttempts := 2 } 1)).2
  let validated := ((serve .validate).run ((serve (.bind .empty)).run started).2).2
  ((serve .process).run validated).2

/-- One attempt is completed and the second has begun, and `numAttempts` tells so. -/
theorem counters_countingSession :
    declareAll [scoreDeclaration] = .ok countingItem.declarations ∧
      countingSession.state = .interacting ∧ countingSession.completedAttempts = 1 ∧
      countingSession.attemptCount = 2 ∧
      ∃ n : Int64, countingSession.value? BuiltIn.numAttempts.identifier = some (.integer n) ∧
        n.toInt = 1 := by
  have declared : declareAll [scoreDeclaration] = .ok countingItem.declarations := rfl
  have interacting : countingSession.state = .interacting := by decide +kernel
  have completed : countingSession.completedAttempts = 1 := by decide +kernel
  have start : (new countingItem { maxAttempts := 2 } 1).Trace [] _ := .nil
  have trace := (((start.call .start).call (.bind .empty)).call .validate).call .process
  obtain ⟨-, -, -, hinteracting, -, -, hheld⟩ := counters_agree declared trace (by decide)
  have attempts : countingSession.attemptCount = countingSession.completedAttempts + 1 :=
    hinteracting interacting
  rw [completed] at attempts
  have hdefaults : ∀ id e, countingItem.layout.rules.get? id ≠
      some (.assign .defaultValue BuiltIn.numAttempts.identifier e) := by
    intro id e h
    rcases id with _ | id <;> cases h
  obtain ⟨n, hn, hcount⟩ := hheld (by decide) hdefaults
  exact ⟨declared, interacting, completed, attempts, n, hn,
    hcount.trans (congrArg Nat.cast completed)⟩

end AssessmentItem.Session
