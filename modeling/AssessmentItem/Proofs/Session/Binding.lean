import AssessmentItem.Proofs.Session.Typing

/-!
# Binding

Two layers could turn down what a candidate submits: the reading of the texts and the store that the
values are written to.  What is read has exactly the declared type, so the store takes every value
that is read, as it is, and what is bad is bad for a reason that the item gives alone.

## Main definitions

* `Session.BindingLaws` : what a binding gives, and everything that it does to a session.

## Main results

* `Session.writeAll_of_admits` : values of the declared types are written one after the other.
* `Session.run_bind_of_interacting` : the run of a binding.
* `Session.bindingLaws` : every binding of an interacting session succeeds and obeys the laws.
-/

namespace AssessmentItem.Session

/-! ### Writing values of the declared types -/

section WriteAll

variable {store : Store} {values : List (String × Value)} {x : String} {v : Value}

theorem admits_put (h : store.Admits x v) (part : SlotPart) (y : String) (w : Value) :
    (store.put part y w).Admits x v := by
  obtain ⟨d, hd, hv⟩ := h
  exact ⟨d, (Store.declaration?_congr (store.declarations_put part y w) x).trans hd, hv⟩

/-- A value that `Admits` says is of the declared type is written as it is, and the others after
it. -/
theorem writeAll_cons_of_admits (h : store.Admits x v) (rest : List (String × Value)) :
    writeAll store ((x, v) :: rest) = writeAll (store.put .value x v) rest := by
  obtain ⟨d, hd, hv⟩ := h
  rw [writeAll, Store.write_eq_ok_iff.2 ⟨d, v, hd, conform_of_admits hv, rfl⟩]

/-- What is not among the values stays as it is in `writeAll`. -/
theorem slot?_writeAll_of_not_mem (store : Store) (h : ∀ e ∈ values, e.1 ≠ x) :
    (writeAll store values).1.slot? x = store.slot? x := by
  refine writeAll_induction (P := fun written ↦ written.slot? x = store.slot? x) values store rfl
    fun written written' e he hw hsame ↦ ?_
  obtain ⟨d, w, -, -, rfl⟩ := Store.write_eq_ok_iff.1 hw
  rw [Store.slot?_put_of_ne (h e he).symm, hsame]

/-- Values of the declared types are all written, each as it is. -/
theorem writeAll_of_admits : (values : List (String × Value)) → (store : Store) →
    (values.map (·.1)).Nodup → (∀ e ∈ values, store.Admits e.1 e.2) →
    (writeAll store values).2 = [] ∧ ∀ e ∈ values,
      (writeAll store values).1.slot? e.1 = (store.slot? e.1).map (·.write .value e.2)
  | [], _, _, _ => ⟨rfl, nofun⟩
  | (x, v) :: rest, store, distinct, h => by
      obtain ⟨hfirst, hrest⟩ := List.forall_mem_cons.1 h
      obtain ⟨hnew, hdistinct⟩ := List.nodup_cons.1 distinct
      have hne : ∀ e ∈ rest, e.1 ≠ x := fun e he heq ↦ hnew (List.mem_map.2 ⟨e, he, heq⟩)
      obtain ⟨hnone, hslots⟩ := writeAll_of_admits rest (store.put .value x v) hdistinct
        fun e he ↦ admits_put (hrest e he) .value x v
      rw [writeAll_cons_of_admits hfirst]
      refine ⟨hnone, List.forall_mem_cons.2 ⟨?_, fun e he ↦ ?_⟩⟩
      · rw [slot?_writeAll_of_not_mem _ hne, Store.slot?_put, if_pos rfl]
      · rw [hslots e he, Store.slot?_put_of_ne (hne e he)]

end WriteAll

/-! ### One binding -/

variable {s : Session} {submission : Submission}

/-- What `bindResponses` reads has the declared types. -/
theorem Sound.admits_bindResponses (sound : s.Sound) (submission : Submission) :
    ∀ e ∈ (s.item.bindResponses submission).1.entries, s.store.Admits e.1 e.2 := by
  intro e he
  obtain ⟨d, data, hd, -, hread⟩ := exists_of_mem_bindResponses he
  have hd' := (sound.declaration?_eq rfl e.1).trans hd
  exact ⟨d, hd', (readResponse?_eq_some_iff.1 hread).ofType⟩

/-- The bad identifiers are in order already, so `mergeSort` leaves them as they are where the store
turns down none. -/
theorem mergeSort_bad (item : Item) (submission : Submission) :
    ((item.bindResponses submission).2 ++ []).mergeSort (fun a b ↦ a ≤ b) =
      (item.bindResponses submission).2 := by
  rw [List.append_nil]
  exact List.mergeSort_of_pairwise <| (pairwise_bad_bindResponses item submission).imp
    fun h ↦ decide_eq_true (String.not_lt.1 (String.lt_asymm h))

/-- The store takes all that is read, so `bind` gives the identifiers that `bindResponses` finds
bad. -/
theorem run_bind_of_interacting (sound : s.Sound) (interacting : s.state = .interacting)
    (submission : Submission) :
    (bind submission).run s = (.ok (s.item.bindResponses submission).2, { s with
      store := (writeAll s.store (s.item.bindResponses submission).1.entries).1
      stage := if (s.item.bindResponses submission).2 = [] then .bound else .bindFailed }) := by
  have hrequire : (requireInteracting .bind).run s = (.ok (), s) := by
    rw [requireInteracting, run_bind_of_run_eq_ok (run_get s), if_neg (not_not_intro interacting)]
    rfl
  have hnone := (writeAll_of_admits _ s.store (FieldMap.nodup_names _)
    (sound.admits_bindResponses submission)).1
  rw [bind, run_bind_of_run_eq_ok hrequire, run_bind_of_run_eq_ok (run_get s)]
  dsimp only
  rw [hnone, mergeSort_bad]
  simp only [List.isEmpty_iff]
  rfl

/-- What a binding gives, the identifiers `bad`, and the session `s'` that it leaves. -/
structure BindingLaws (item : Item) (s : Session) (submission : Submission) (bad : List String)
    (s' : Session) : Prop where
  increasing : bad.Pairwise (· < ·)
  /-- What is `bad` has been submitted and is rejected for a reason, and only that is `bad`. -/
  mem_bad (x : String) : x ∈ bad ↔ ∃ data, submission.find? x = some data ∧ item.Rejects x data
  /-- The slot of all else that is submitted gets the value that is read (`ReadsAs`), as it is, and
  keeps the rest. -/
  bound {x : String} {data : ResponseData} : submission.find? x = some data → x ∉ bad →
    ∃ slot v, s.store.slot? x = some slot ∧ slot.declaration ∈ item.declarations ∧
      data.ReadsAs slot.declaration.cardinality slot.declaration.baseType v ∧
      s'.store.slot? x = some { slot with value := v }
  untouched {x : String} : submission.find? x = none ∨ x ∈ bad →
    s'.store.slot? x = s.store.slot? x
  declarations_eq : s'.store.declarations = s.store.declarations
  /-- Nothing but the `store` and the `stage` changes. -/
  session_eq : s' = { s with
    store := s'.store, stage := if bad = [] then .bound else .bindFailed }

/-- Every `bind` of an interacting session of an item that is read from a document succeeds.  It
gives exactly the identifiers that the item `Rejects`, and puts what it reads of the others into
their slots; it changes nothing else of the session but the stage. -/
theorem bindingLaws {document : ItemDocument} {item : Item} (read : document.item = .ok item)
    {settings : DeliverySettings} {seed : UInt64} {events : List Event} {s : Session}
    (trace : (new item settings seed).Trace events s) (interacting : s.state = .interacting)
    (submission : Submission) :
    ∃ bad s', (bind submission).run s = (.ok bad, s') ∧
      BindingLaws item s submission bad s' := by
  obtain ⟨-, declared⟩ := wellTyped_of_item read
  obtain ⟨sound, rfl, -⟩ := trace.sound (sound_new declared settings seed)
  have hadmits := sound.admits_bindResponses submission
  have hslots := (writeAll_of_admits _ s.store (FieldMap.nodup_names _) hadmits).2
  refine ⟨_, _, run_bind_of_interacting sound interacting submission, ?_⟩
  constructor
  case increasing => exact pairwise_bad_bindResponses s.item submission
  case mem_bad =>
    intro x
    rw [mem_bad_bindResponses_iff]
    simp only [bindResponse?_eq_none_iff declared]
  case bound =>
    intro x data hdata hgood
    obtain ⟨v, hv, hmem⟩ := exists_mem_bindResponses hdata hgood
    obtain ⟨d, hd, -, hread⟩ := bindResponse?_eq_some_iff.1 hv
    obtain ⟨slot, hslot, rfl⟩ :=
      Option.map_eq_some_iff.1 ((sound.declaration?_eq rfl x).trans hd)
    refine ⟨slot, v, hslot, mem_of_findDeclaration? hd, readResponse?_eq_some_iff.1 hread, ?_⟩
    rw [hslots _ hmem, hslot]
    rfl
  case untouched =>
    intro x hx
    exact slot?_writeAll_of_not_mem s.store fun e he ↦ ne_of_mem_bindResponses hx he
  case declarations_eq => exact declarations_writeAll _ _
  case session_eq => rfl

/-- A session of `choiceItem` after `start`. -/
def choiceSession : Session := ((serve .start).run (new choiceItem {} 1)).2

theorem exists_trace_choiceSession : ∃ events, (new choiceItem {} 1).Trace events choiceSession :=
  ⟨_, Trace.nil.call .start⟩

/-- Two identifiers for `RESPONSE` with a blank between them, and texts for a variable that is not
declared, for `completionStatus` and for `duration`. -/
def forgingSubmission : Submission where
  entries := [("RESPONSE", .texts ["B", " ", "A"]), ("UNKNOWN", .texts ["1"]),
    (BuiltIn.completionStatus.identifier, .texts ["completed"]),
    (BuiltIn.duration.identifier, .texts ["0"])]
  sorted := by decide

/-- The identifiers `B` and `A`, in this order. -/
def chosenIdentifiers : Container where
  baseType := .identifier
  members := [.identifier "B", .identifier "A"]
  uniform := by decide

theorem bindingLaws_forgingSubmission :
    choiceDocument.item = .ok choiceItem ∧ choiceSession.state = .interacting ∧
      ∃ bad s', (bind forgingSubmission).run choiceSession = (.ok bad, s') ∧
        BuiltIn.completionStatus.identifier ∈ bad ∧ BuiltIn.duration.identifier ∈ bad ∧
        "UNKNOWN" ∈ bad ∧ "RESPONSE" ∉ bad ∧ s'.stage = .bindFailed ∧
        s'.store.value? "RESPONSE" = some (.multiple chosenIdentifiers) := by
  obtain ⟨events, trace⟩ := exists_trace_choiceSession
  have interacting : choiceSession.state = .interacting := by decide +kernel
  obtain ⟨bad, s', hrun, laws⟩ :=
    bindingLaws choiceDocument_item trace interacting forgingSubmission
  have hduration : BuiltIn.duration.identifier ∈ bad :=
    (laws.mem_bad _).2 ⟨_, rfl, .written (.inl rfl)⟩
  have hgood : "RESPONSE" ∉ bad := by
    intro hbad
    obtain ⟨data, hdata, hrejected⟩ := (laws.mem_bad _).1 hbad
    cases hdata
    have hnone := (bindResponse?_eq_none_iff (wellTyped_of_item choiceDocument_item).2).2 hrejected
    cases hnone
  obtain ⟨slot, v, hslot, -, hread, hwritten⟩ := laws.bound rfl hgood
  refine ⟨choiceDocument_item, interacting, bad, s', hrun, ?_, hduration, ?_, hgood, ?_, ?_⟩
  · exact (laws.mem_bad _).2 ⟨_, rfl, .notResponse (d := BuiltIn.completionStatus.declaration)
      (.tail _ (.tail _ (.head _))) rfl (by decide)⟩
  · exact (laws.mem_bad _).2 ⟨_, rfl, .undeclared (by decide)⟩
  · rw [laws.session_eq]
    exact if_neg (List.ne_nil_of_mem hduration)
  · have htype : (choiceSession.store.declaration? "RESPONSE").map (fun d ↦
        (d.cardinality, d.baseType)) = some (.multiple, some .identifier) := by decide +kernel
    rw [Store.declaration?, hslot, Option.map_some, Option.map_some] at htype
    obtain ⟨hcard, hbase⟩ := Prod.ext_iff.1 (Option.some.inj htype)
    dsimp only at hcard hbase
    rw [hcard, hbase] at hread
    rw [Store.value?, hwritten]
    cases hread with
    | texts _ read =>
      cases read
      rfl

end AssessmentItem.Session
