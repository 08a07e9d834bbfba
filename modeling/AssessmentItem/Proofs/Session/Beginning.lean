import AssessmentItem.Proofs.Session.Preparation

/-!
# How a session begins

A start, a restart and a reset put every response and every outcome to its default.  The default in
force is the declared one as long as no rule has put another one over it, in template processing or
in an attempt.  So where no rule of an item assigns to the default of a variable, the variable holds
its declared value whenever the session begins, whatever has been called before.

The variables that every item declares get their first values in no other way.  A document that
declares one of them again replaces its declaration, and with it its default.

## Main definitions

* `Session.KeepsDefault` : no rule of an item assigns to the default of a variable.
* `BuiltIn.start` : what a variable that every item declares is to hold when a session begins.

## Main results

* `Session.Trace.held?_default_eq_none` : nothing is put over a default that the rules keep.
* `Session.value?_of_begun` : what a variable holds when a session begins.
* `Session.builtIns_of_begun` : what the variables hold that every item declares.
-/

namespace AssessmentItem

open Processing

/-! ### Declared values -/

/-- Where nothing is `held?` over it, the default in force is the `initialValue`. -/
theorem Store.default?_eq_initialValue {store : Store} {x : String} {d : VariableDeclaration}
    (hd : store.declaration? x = some d) (hheld : store.held? .default x = none) :
    store.default? x = some d.initialValue := by
  rw [default?_eq_getD hd, hheld, Option.getD_none]

theorem Store.held?_default_ofItem (item : Item) (x : String) :
    (ofItem item).held? .default x = none := by
  rw [held?, slot?_ofItem]
  cases item.declaration? x <;> rfl

/-- What a built-in variable is to hold when a session begins: zero, or `not_attempted`. -/
def BuiltIn.start : BuiltIn → Value
  | duration => .float 0
  | numAttempts => .integer 0
  | completionStatus => CompletionStatus.notAttempted.value

theorem BuiltIn.initialValue_declaration (b : BuiltIn) : b.declaration.initialValue = b.start := by
  cases b <;> rfl

/-- Declared again without a default, a built-in variable is NULL at first. -/
theorem BuiltIn.initialValue_of_sameType {b : BuiltIn} {d : VariableDeclaration}
    (hsame : b.declaration.sameType d) (hdefault : d.default = .null) :
    d.initialValue = .null := by
  obtain ⟨hkind, hcard, htype⟩ := VariableDeclaration.sameType_iff.1 hsame
  rw [VariableDeclaration.initialValue, ← hkind, ← hcard, ← htype, hdefault]
  cases b <;> rfl

namespace Session

variable {s s' : Session} {store : Store} {item : Item} {request : Request}
  {result : Except SessionError Answer} {answer : Answer} {events : List Event} {x : String}

/-! ### Defaults that the rules keep -/

/-- No rule of an item assigns to the default of `x`. -/
def KeepsDefault (item : Item) (x : String) : Prop :=
  ∀ phase, ∀ tree ∈ item.ruleTrees phase,
    tree.Each (fun _ rule ↦ ∀ e, rule ≠ .assign .defaultValue x e) fun _ ↦ True

/-- No run of the rules of an item that `KeepsDefault` assigns to the default of `x`. -/
theorem KeepsDefault.identifier_ne (h : KeepsDefault item x) (phase : Phase) (store : Store)
    (generator : Generator) :
    ∀ a ∈ (execute item (item.ruleTrees phase) store generator).2.assignments,
      a.kind = .defaultValue → a.identifier ≠ x := by
  rintro a ha hkind rfl
  obtain ⟨e, he⟩ := (logged_execute item (h phase) store generator).noted a ha
  exact he e (by rw [hkind])

/-- Template processing puts nothing over the default of `x`. -/
theorem KeepsDefault.held?_of_prepare (h : KeepsDefault item x) {tries : Nat}
    {generator generator' : Generator}
    (prepared : prepare item tries generator = (.ok store, generator')) :
    store.held? .default x = none := by
  obtain ⟨start, outcome, run, hran, rfl⟩ := prepare_eq_ok tries generator prepared
  have hreplays := (logged_execute_ruleTrees item .template (.ofItem item) start).replays
  have hnone := h.identifier_ne .template (.ofItem item) start
  rw [hran] at hreplays hnone
  have hheld : run.store.held? .default x = (Store.ofItem item).held? .default x :=
    hreplays.held?_eq fun a ha hid hpart ↦ hnone a ha (kind_of_part_eq_default hpart) hid
  have hprepared : run.store.IsPrepared .default x := nofun
  rw [hprepared.held?_settleDefaults, hheld, Store.held?_default_ofItem]

/-- A call puts nothing over the default of `x`. -/
theorem Step.held?_default_eq_none (h : s.Step request result s') (sound : s.Sound)
    (keeps : KeepsDefault s.item x) (hs : s.store.held? .default x = none) :
    s'.store.held? .default x = none := by
  by_cases hprepared : Prepared request result
  · obtain ⟨hrequest, answer, rfl⟩ := hprepared
    cases h with
    | started _ prepared | restarted _ prepared => exact keeps.held?_of_prepare prepared
    | _ => simp at hrequest
  · rw [← hs]
    refine h.held?_eq sound hprepared nofun fun _ base outcome run attempted ↦ ?_
    obtain ⟨counted, -, hran⟩ := attempted.ran
    have hnone := keeps.identifier_ne .response counted s.generator
    rw [hran] at hnone
    exact hnone

/-- Nothing is ever put over the default of `x`, whatever the trace. -/
theorem Trace.held?_default_eq_none {settings : DeliverySettings} {seed : UInt64}
    (trace : (new item settings seed).Trace events s) (declared : Declared item.declarations)
    (keeps : KeepsDefault item x) : s.store.held? .default x = none :=
  trace.induction (P := fun _ s ↦ s.store.held? .default x = none)
    (sound_new declared settings seed) (Store.held?_default_ofItem item x)
    fun _ hsound hitem _ hs hstep ↦ hstep.held?_default_eq_none hsound (hitem ▸ keeps) hs

/-! ### The beginning -/

/-- The calls with which a session begins: `start`, `restart` and `reset`. -/
def Begins (request : Request) : Prop := request = .start ∨ request = .restart ∨ request = .reset

/-- A session that begins is not changed by `settleDefaults`. -/
theorem Step.settleDefaults_of_begins (h : s.Step request (.ok answer) s')
    (begins : Begins request) : settleDefaults s'.store = s'.store := by
  obtain hrequest | rfl : (request = .start ∨ request = .restart) ∨ request = .reset :=
    or_assoc.2 begins
  · exact (h.eq_started_of_prepared ⟨hrequest, answer, rfl⟩).2
  · cases h
    exact settleDefaults_settleDefaults s.store

/-- Whenever a session begins, a response or an outcome whose default no rule assigns to holds its
`initialValue`. -/
theorem value?_of_begun {settings : DeliverySettings} {seed : UInt64}
    (trace : (new item settings seed).Trace events s) (declared : Declared item.declarations)
    (begins : Begins request) (begun : (serve request).run s = (.ok answer, s'))
    (keeps : KeepsDefault item x) {d : VariableDeclaration} (hd : item.declaration? x = some d)
    (hkind : d.kind ≠ .template) : s'.value? x = some d.initialValue := by
  obtain ⟨hsound, hitem, -⟩ := trace.sound (sound_new declared settings seed)
  have hstep := step_serve hsound request
  rw [begun] at hstep
  have hheld : s'.store.held? .default x = none :=
    hstep.held?_default_eq_none hsound (hitem ▸ keeps) (trace.held?_default_eq_none declared keeps)
  have hd' : s'.store.declaration? x = some d := by
    rw [Store.declaration?_eq, (hstep.sound hsound).declarations_eq, hstep.item_eq, hitem]
    exact hd
  calc s'.value? x
      = (settleDefaults s'.store).value? x := by
        rw [hstep.settleDefaults_of_begins begins]
        rfl
    _ = s'.store.default? x := value?_settleDefaults hd' hkind
    _ = some d.initialValue := Store.default?_eq_initialValue hd' hheld

/-- Whenever a session begins, and the rules of its item assign to no default of a built-in variable
`b`, the value of `b` is `b.start`, if the document does not declare `b` again.  If the document
does, and gives it no default, the value is NULL: the session does not set it. -/
theorem builtIns_of_begun {declarations : List VariableDeclaration}
    (declared : declareAll declarations = .ok item.declarations)
    (undefaulted : ∀ d ∈ declarations, ∀ b : BuiltIn, d.identifier = b.identifier →
      d.default = .null)
    (keeps : ∀ b : BuiltIn, KeepsDefault item b.identifier)
    {settings : DeliverySettings} {seed : UInt64}
    (trace : (new item settings seed).Trace events s) (begins : Begins request)
    (begun : (serve request).run s = (.ok answer, s')) (b : BuiltIn) :
    ((∀ d ∈ declarations, d.identifier ≠ b.identifier) →
      s'.value? b.identifier = some b.start) ∧
    ((∃ d ∈ declarations, d.identifier = b.identifier) →
      s'.value? b.identifier = some .null) := by
  have hdeclared := declared_of_declareAll declared
  obtain ⟨d, hd, hsame⟩ := hdeclared.builtIn b
  have hkind : d.kind ≠ .template := by
    rw [← (VariableDeclaration.sameType_iff.1 hsame).1]
    cases b <;> decide
  have hvalue : s'.value? b.identifier = some d.initialValue :=
    value?_of_begun trace hdeclared begins begun (keeps b) hd hkind
  constructor
  · intro hne
    rw [findDeclaration?_declareAll_of_ne declared hne, findDeclaration?_builtIns] at hd
    obtain rfl := Option.some.inj hd
    rw [hvalue, b.initialValue_declaration]
  · rintro ⟨d', hd', hid⟩
    -- The last of the declarations is the one in force.
    have hmem : d ∈ declarations := by
      have hsome : (findDeclaration? declarations.reverse b.identifier).isSome :=
        List.find?_isSome.2 ⟨d', List.mem_reverse.2 hd', beq_iff_eq.2 hid⟩
      rw [findDeclaration?_declareAll declared, Option.or_of_isSome hsome] at hd
      exact List.mem_reverse.1 (List.mem_of_find?_eq_some hd)
    have hdefault := undefaulted d hmem b (identifier_of_findDeclaration? hd)
    rw [hvalue, BuiltIn.initialValue_of_sameType hsame hdefault]

/-- A declaration of `completionStatus` that has no default. -/
def bareStatusDeclaration : VariableDeclaration :=
  ⟨"completionStatus", .single, some .identifier, .null, .outcome .plain⟩

/-- The item `countingItem`, with a document that declares `completionStatus` anew. -/
def redeclaringItem : Item :=
  { countingItem with
    identifier := "redeclaring"
    declarations := [BuiltIn.duration.declaration, BuiltIn.numAttempts.declaration,
      bareStatusDeclaration, scoreDeclaration] }

/-- A session of `redeclaringItem` after `start`. -/
def redeclaredSession : Session := ((serve .start).run (new redeclaringItem {} 1)).2

theorem builtIns_redeclaredSession :
    redeclaredSession.value? "completionStatus" = some .null ∧
      redeclaredSession.value? "numAttempts" = some (.integer 0) := by
  have declared : declareAll [bareStatusDeclaration, scoreDeclaration] =
      .ok redeclaringItem.declarations := rfl
  have undefaulted : ∀ d ∈ [bareStatusDeclaration, scoreDeclaration], ∀ b : BuiltIn,
      d.identifier = b.identifier → d.default = .null := by
    simp [bareStatusDeclaration, scoreDeclaration]
  have keeps (b : BuiltIn) : KeepsDefault redeclaringItem b.identifier := by
    intro phase tree htree
    cases phase with
    | template => cases htree
    | response =>
      obtain rfl := List.mem_singleton.1 htree
      exact .node nofun nofun
  have begun : (serve .start).run (new redeclaringItem {} 1) = (.ok .done, redeclaredSession) := rfl
  have starts := builtIns_of_begun declared undefaulted keeps .nil (.inl rfl) begun
  exact ⟨(starts .completionStatus).2 ⟨bareStatusDeclaration, by simp, rfl⟩,
    (starts .numAttempts).1 (by decide)⟩

/-- The references of `redeclaringItem` are in order, the document gives `completionStatus` the type
that it must have, and the session begins with NULL in it. -/
theorem status_null_redeclaredSession :
    declareAll [bareStatusDeclaration, scoreDeclaration] = .ok redeclaringItem.declarations ∧
      redeclaringItem.checkReferences = .ok () ∧
      (serve .start).run (new redeclaringItem {} 1) = (.ok .done, redeclaredSession) ∧
      redeclaredSession.value? BuiltIn.completionStatus.identifier = some .null ∧
      redeclaredSession.value? BuiltIn.completionStatus.identifier ≠
        some CompletionStatus.notAttempted.value :=
  ⟨rfl, rfl, rfl, rfl, fun h ↦ nomatch Option.some.inj h⟩

end Session

end AssessmentItem
