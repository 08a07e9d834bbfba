import AssessmentItem.Proofs.Document.Typing
import AssessmentItem.Proofs.Response.Binding
import AssessmentItem.Proofs.Session.Traces

/-!
# Types of what a session holds

The values of a session come from many places: from the document of its item, from the candidate,
from expressions and tables, and from the session itself.  All of them are built by the constructors
of values, and the store brings each of them to the declared type, so the store of a session of an
item that is read from a document is well typed after every call.

## Main results

* `Session.Sound.writeAll_induction` : what a binding keeps.
* `Session.Step.wellTyped` : every call keeps a store well typed.
* `Session.wellTyped_slots` : what a session holds has the declared types after every trace.
-/

namespace AssessmentItem

namespace Session

variable {s s' : Session} {base store store' : Store}

theorem Sound.nodup (sound : s.Sound) (h : store.declarations = s.store.declarations) :
    (store.declarations.map (·.identifier)).Nodup := by
  rw [h, sound.declarations_eq]
  exact sound.declared.nodup

/-- In a `Sound` session, a variable has the same declaration in the store as in the item. -/
theorem Sound.declaration?_eq (sound : s.Sound) (h : store.declarations = s.store.declarations)
    (x : String) : store.declaration? x = s.item.declaration? x := by
  rw [Store.declaration?_eq, h, sound.declarations_eq, Item.declaration?]

/-! ### Parts of calls -/

theorem wellTyped_settleDefaults (h : store.WellTyped) : (settleDefaults store).WellTyped :=
  Store.wellTyped_resetKind (Store.wellTyped_resetKind h .response) .outcome

theorem wellTyped_prepare {item : Item} (hitem : item.WellTyped)
    (declared : Declared item.declarations) {tries : Nat} {generator generator' : Generator}
    (h : prepare item tries generator = (.ok store, generator')) : store.WellTyped := by
  obtain ⟨run, rfl, hlogged⟩ := exists_replays_of_prepare h
  refine wellTyped_settleDefaults (hlogged.replays.wellTyped ?_ (Store.wellTyped_ofItem hitem))
  rw [Store.declarations_ofItem]
  exact declared.nodup

/-- What the writing of every value that is read for a response keeps, a binding keeps. -/
theorem Sound.writeAll_induction {P : Store → Prop} (sound : s.Sound) (submission : Submission)
    (start : P s.store)
    (step : ∀ {store store' x v d}, store.declarations = s.store.declarations →
      store.declaration? x = some d → d.isCandidateResponse = true → d.Admits v →
      store.write .value x v = .ok store' → P store → P store') :
    P (writeAll s.store (s.item.bindResponses submission).1.entries).1 := by
  have hall := Session.writeAll_induction
    (P := fun store ↦ P store ∧ store.declarations = s.store.declarations)
    (s.item.bindResponses submission).1.entries s.store ⟨start, rfl⟩
    fun store store' e he hw hstore ↦ ?_
  · exact hall.1
  · obtain ⟨hP, hdecl⟩ := hstore
    obtain ⟨d, data, hd, hcandidate, hread⟩ := exists_of_mem_bindResponses he
    have hadmits : d.Admits e.2 := (readResponse?_eq_some_iff.1 hread).ofType
    exact ⟨step hdecl ((sound.declaration?_eq hdecl e.1).trans hd) hcandidate hadmits hw hP,
      (Store.declarations_write hw).trans hdecl⟩

theorem wellTyped_writeAll (sound : s.Sound) (h : s.store.WellTyped) (submission : Submission) :
    (writeAll s.store (s.item.bindResponses submission).1.entries).1.WellTyped :=
  sound.writeAll_induction submission h fun hdecl _ _ hv hw hstore ↦
    Store.wellTyped_write hstore (sound.nodup hdecl) hv.wellFormed hw

theorem wellTyped_outcomesReset (sound : s.Sound) (h : s.store.WellTyped)
    (hbase : s.OutcomesReset base) : base.WellTyped := by
  cases hbase with
  | adaptive _ => exact h
  | reset _ current written =>
    exact Store.wellTyped_write (Store.wellTyped_resetKind h .outcome)
      (sound.nodup (Store.declarations_resetKind _ _)) (h.wellFormed_value? current) written

theorem wellFormed_heldAttempts (h : store.WellTyped) : (heldAttempts store).WellFormed := by
  unfold heldAttempts
  cases hv : store.value? BuiltIn.numAttempts.identifier with
  | none => trivial
  | some v => exact h.wellFormed_value? hv

/-- The rules of an attempt keep a store `WellTyped`, the one on which they began included. -/
theorem wellTyped_attempted (sound : s.Sound) (h : s.store.WellTyped)
    {result : Except AuthoringError Outcome} {run : Run} (attempted : s.Attempted base result run) :
    base.WellTyped ∧ run.store.WellTyped := by
  have hbase := wellTyped_outcomesReset sound h attempted.outcomesReset
  have hdecl := attempted.outcomesReset.declarations_eq
  obtain ⟨store, hstore, hlogged⟩ := attempted.logged
  have hcounted := Store.wellTyped_write hbase (sound.nodup hdecl) (Value.wellFormed_integer _)
    hstore
  exact ⟨hbase, hlogged.replays.wellTyped
    (sound.nodup ((Store.declarations_write hstore).trans hdecl)) hcounted⟩

theorem wellTyped_noted {report : Report} (h : store.WellTyped)
    (distinct : (store.declarations.map (·.identifier)).Nodup)
    (noted : Noted report store store') : store'.WellTyped := by
  rcases noted.eq_or_written with rfl | hwritten
  · exact h
  · exact Store.wellTyped_write h distinct (Value.wellFormed_single _) hwritten

/-! ### Calls -/

/-- Every call keeps a store `WellTyped`. -/
theorem Step.wellTyped {request : Request} {result : Except SessionError Answer}
    (h : s.Step request result s') (sound : s.Sound) (hitem : s.item.WellTyped)
    (hs : s.store.WellTyped) : s'.store.WellTyped := by
  cases h with
  | refused | unprepared | validated | closed | solved => exact hs
  | started _ prepared | restarted _ prepared =>
    exact wellTyped_prepare hitem sound.declared prepared
  | bound submission _ written _ =>
    have hall := wellTyped_writeAll sound hs submission
    rw [written] at hall
    exact hall
  | unreset => exact Store.wellTyped_resetKind hs .outcome
  | misprocessed attempted restored =>
    obtain ⟨hbase, hrun⟩ := wellTyped_attempted sound hs attempted
    exact Store.wellTyped_write hrun (sound.nodup attempted.declarations_eq)
      (wellFormed_heldAttempts hbase) restored
  | unrestored attempted => exact (wellTyped_attempted sound hs attempted).2
  | processed attempted noted =>
    rw [store_attemptCompleted]
    exact wellTyped_noted (wellTyped_attempted sound hs attempted).2
      (sound.nodup attempted.declarations_eq) noted
  | reset => exact wellTyped_settleDefaults hs
  | elapsed _ _ written =>
    exact Store.wellTyped_write hs (sound.nodup rfl) (Value.wellFormed_float _) written

/-- A session of an item whose declared values have their types holds a `WellTyped` store after
every trace. -/
theorem Trace.wellTyped {item : Item} (hitem : item.WellTyped)
    (declared : Declared item.declarations) {settings : DeliverySettings} {seed : UInt64}
    {events : List Event} (trace : (new item settings seed).Trace events s) : s.store.WellTyped :=
  trace.induction (P := fun _ s ↦ s.store.WellTyped) (sound_new declared settings seed)
    (Store.wellTyped_ofItem hitem) fun _ hsound heq _ hs hstep ↦
      hstep.wellTyped hsound (heq ▸ hitem) hs

/-- What a session of an item read from a document holds has the declared types after every trace:
values, overrides of defaults and overrides of correct values.  And it holds the variables that the
item declares. -/
theorem wellTyped_slots {document : ItemDocument} {item : Item} (read : document.item = .ok item)
    {settings : DeliverySettings} {seed : UInt64} {events : List Event} {s : Session}
    (trace : (new item settings seed).Trace events s) :
    s.store.declarations = item.declarations ∧ ∀ slot ∈ s.store.slots, slot.WellTyped := by
  obtain ⟨hitem, hdeclared⟩ := wellTyped_of_item read
  obtain ⟨hsound, heq, -⟩ := trace.sound (sound_new hdeclared settings seed)
  exact ⟨hsound.declarations_eq.trans (congrArg Item.declarations heq),
    (trace.wellTyped hitem hdeclared).slots⟩

/-- A document that declares a `RESPONSE` of several identifiers, two of which are correct. -/
def choiceDocument : ItemDocument where
  identifier := "choice"
  title := none
  adaptive := true
  declarations := [{
    kind := .response, identifier := "RESPONSE", cardinality := .multiple
    baseType := some .identifier, default := none, correct := some (.list ["A", "B"])
    mapping := none, areaMapping := none, constraints := none, normalMinimum := none
    normalMaximum := none, mastery := none, matchTable := none, interpolationTable := none
    isParameter := false, isMath := false }]
  templateProcessing := []
  responseProcessing := []

/-- The item of `choiceDocument`. -/
def choiceItem : Item where
  identifier := "choice"
  title := ""
  adaptive := true
  declarations := builtIns ++ [⟨"RESPONSE", .multiple, some .identifier, .null,
    .response ⟨.multiple ⟨.identifier, [.identifier "A", .identifier "B"],
      by simp [Scalar.baseType]⟩, none, none, .unlimited⟩⟩]
  layout := .empty
  templateRules := []
  responseRules := []

theorem choiceDocument_item : choiceDocument.item = .ok choiceItem := by
  have rules (phase : String) : readRules [] phase 0 = .ok [] := by
    rw [readRules]
    rfl
  rw [ItemDocument.item]
  simp only [choiceDocument, rules]
  rfl

theorem wellTyped_choiceSession :
    choiceDocument.item = .ok choiceItem ∧
      ∀ slot ∈ ((serve .start).run (new choiceItem {} 1)).2.store.slots, slot.WellTyped := by
  have start : (new choiceItem {} 1).Trace [] _ := .nil
  exact ⟨choiceDocument_item, (wellTyped_slots choiceDocument_item (start.call .start)).2⟩

end Session

end AssessmentItem
