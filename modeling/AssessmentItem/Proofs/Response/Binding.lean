import Mathlib.Data.List.TakeWhile
import AssessmentItem.Response.Binding
import AssessmentItem.Proofs.Json.Objects
import AssessmentItem.Proofs.Store.Typing

/-!
# What is bound

Only what is submitted for a declared response is bound, and never for the two that the session
itself writes.  The reasons for which an identifier is bad are listed apart from the way in which it
is found to be, and what is read of a submission has exactly the declared type.

## Main definitions

* `ResponseData.ReadsAs` : what is read of a submission.
* `Item.Rejects` : the reasons for which an identifier is bad.

## Main results

* `ResponseData.ReadsAs.ofType` : what is read has the declared type.
* `readResponse?_eq_some_iff`, `bindResponse?_eq_none_iff` : what is read, and what is bad.
* `mem_bindResponses_iff`, `mem_bad_bindResponses_iff` : where a bound value and a bad identifier
  come from.
* `isCandidateResponse_iff` : candidates do not give the values that the session writes.
-/

namespace AssessmentItem

variable {d : VariableDeclaration} {item : Item} {submission : Submission} {x : String}
  {data : ResponseData} {v : Value}

/-! ### Reading -/

/-- Nothing is left by `trim` of a text exactly if its characters are all blank. -/
theorem Text.trim_eq_nil_iff {cs : List Char} : trim cs = [] ↔ ∀ c ∈ cs, isBlank c := by
  rw [trim, List.reverse_eq_nil_iff, List.dropWhile_eq_nil_iff]
  simp only [List.mem_reverse]
  constructor
  · intro h c hc
    rw [← @List.takeWhile_append_dropWhile _ isBlank cs] at hc
    rcases List.mem_append.1 hc with hc | hc
    · exact List.mem_takeWhile_imp hc
    · exact h c hc
  · exact fun h c hc ↦ h c ((List.dropWhile_sublist _).subset hc)

/-- What is submitted for a variable is read as a value of its type.  A `file` is read for variables
that hold a single file alone, and `texts` for those of the other base types, without the texts that
have no character but blank ones.  For the variables without a base type, which are records, nothing
is read. -/
inductive ResponseData.ReadsAs : ResponseData → Cardinality → Option BaseType → Value → Prop
  | file (info : FileInfo) : ReadsAs (.file info) .single (some .file) (.single (.file info))
  | texts {texts : List String} {k : Cardinality} {t : BaseType} {v : Value} (notFile : t ≠ .file)
      (read : Value.read (texts.filter fun text ↦ text.toList.any fun c ↦ !Text.isBlank c) k t =
        .ok v) :
      ReadsAs (.texts texts) k (some t) v

/-- What is read of a submission is of the type for which it is read. -/
theorem ResponseData.ReadsAs.ofType {k : Cardinality} {t : Option BaseType}
    (h : data.ReadsAs k t v) : v.OfType k t := by
  cases h with
  | file info => exact Value.ofType_single rfl
  | texts _ read => exact (Value.gives_read _ _ _).of_eq_ok read

theorem filter_notBlank (texts : List String) :
    (texts.filter fun text ↦ !(Text.trim text.toList).isEmpty) =
      texts.filter fun text ↦ text.toList.any fun c ↦ !Text.isBlank c := by
  refine List.filter_congr fun text _ ↦ ?_
  rw [Bool.eq_iff_iff]
  simp [Text.trim_eq_nil_iff]

theorem readResponse?_eq_some_iff :
    d.readResponse? data = some v ↔ data.ReadsAs d.cardinality d.baseType v := by
  unfold VariableDeclaration.readResponse?
  generalize d.cardinality = k, d.baseType = t
  split
  · exact ⟨nofun, nofun⟩
  · constructor
    · intro h
      obtain ⟨rfl, rfl⟩ : k = .single ∧ Value.single (.file _) = v := by simpa using h
      exact .file _
    · rintro ⟨⟩
      rfl
  · exact ⟨nofun, fun h ↦ match h with | .texts notFile _ => absurd rfl notFile⟩
  · rename_i notFile
    exact ⟨nofun, fun h ↦ match h with | .file _ => absurd rfl notFile⟩
  · rename_i texts notFile
    dsimp only
    rw [filter_notBlank, toOption_eq_some_iff]
    exact ⟨.texts notFile, fun h ↦ match h with | .texts _ read => read⟩

/-! ### Bad identifiers -/

theorem bindResponse?_eq_some_iff :
    item.bindResponse? x data = some v ↔
      ∃ d, item.declaration? x = some d ∧ d.isCandidateResponse = true ∧
        d.readResponse? data = some v := by
  rw [Item.bindResponse?]
  cases item.declaration? x with
  | none => simp
  | some d =>
    cases hd : d.isCandidateResponse <;> simp [hd]

/-- Candidates do not give the values of `duration` and `numAttempts`, which the session writes. -/
theorem isCandidateResponse_iff : d.isCandidateResponse = true ↔
    d.kind = .response ∧ d.identifier ≠ BuiltIn.duration.identifier ∧
      d.identifier ≠ BuiltIn.numAttempts.identifier := by
  simp [VariableDeclaration.isCandidateResponse, and_assoc]

/-- The reasons for which the identifier `x` is bad when `data` is submitted for it. -/
inductive Item.Rejects (item : Item) (x : String) (data : ResponseData) : Prop
  | undeclared (undeclared : ∀ d ∈ item.declarations, d.identifier ≠ x)
  | notResponse {d : VariableDeclaration} (declared : d ∈ item.declarations)
      (identifier : d.identifier = x) (kind : d.kind ≠ .response)
  | written (written : x = BuiltIn.duration.identifier ∨ x = BuiltIn.numAttempts.identifier)
  | unreadable {d : VariableDeclaration} (declared : d ∈ item.declarations)
      (identifier : d.identifier = x) (unread : ∀ v, ¬data.ReadsAs d.cardinality d.baseType v)

/-- An identifier is bad exactly for one of the reasons of `Rejects`. -/
theorem bindResponse?_eq_none_iff (declared : Declared item.declarations) :
    item.bindResponse? x data = none ↔ item.Rejects x data := by
  constructor
  · intro h
    by_cases hdeclared : ∃ d ∈ item.declarations, d.identifier = x
    · obtain ⟨d, hd, rfl⟩ := hdeclared
      by_cases hcandidate : d.isCandidateResponse = true
      · refine .unreadable hd rfl fun v hv ↦ ?_
        have hbound : item.bindResponse? d.identifier data = some v := bindResponse?_eq_some_iff.2
          ⟨d, findDeclaration?_of_mem declared.nodup hd, hcandidate, readResponse?_eq_some_iff.2 hv⟩
        cases h.symm.trans hbound
      · rw [isCandidateResponse_iff, not_and_or, not_and_or, not_ne_iff, not_ne_iff] at hcandidate
        rcases hcandidate with hkind | hwritten
        · exact .notResponse hd rfl hkind
        · exact .written hwritten
    · exact .undeclared fun d hd hid ↦ hdeclared ⟨d, hd, hid⟩
  · intro h
    refine Option.eq_none_iff_forall_ne_some.2 fun v hv ↦ ?_
    obtain ⟨d, hd, hcandidate, hread⟩ := bindResponse?_eq_some_iff.1 hv
    obtain rfl := identifier_of_findDeclaration? hd
    obtain ⟨hkind, hwritten⟩ := isCandidateResponse_iff.1 hcandidate
    -- A declaration that is named by the reason is the one that is found.
    have hsame {e : VariableDeclaration} (he : e ∈ item.declarations)
        (hid : e.identifier = d.identifier) : e = d := by
      have hfound := findDeclaration?_of_mem declared.nodup he
      rw [hid] at hfound
      exact Option.some.inj (hfound.symm.trans hd)
    cases h with
    | undeclared undeclared => exact undeclared d (mem_of_findDeclaration? hd) rfl
    | notResponse he hid kind => exact kind (hsame he hid ▸ hkind)
    | written written => exact written.elim hwritten.1 hwritten.2
    | unreadable he hid unread =>
      obtain rfl := hsame he hid
      exact unread v (readResponse?_eq_some_iff.1 hread)

/-! ### Submissions -/

/-- A value is bound exactly if `bindResponse?` reads it of what is submitted for its identifier. -/
theorem mem_bindResponses_iff {e : String × Value} :
    e ∈ (item.bindResponses submission).1.entries ↔
      ∃ data, submission.find? e.1 = some data ∧ item.bindResponse? e.1 data = some e.2 := by
  have hsorted : ((submission.entries.map fun e ↦ (e.1, item.bindResponse? e.1 e.2)).filterMap
      fun e ↦ e.2.map fun v ↦ (e.1, v)).Pairwise (fun a b ↦ a.1 < b.1) := by
    rw [List.filterMap_map]
    refine submission.sorted.filterMap _ fun a a' hlt b hb b' hb' ↦ ?_
    obtain ⟨_, -, rfl⟩ := Option.map_eq_some_iff.1 hb
    obtain ⟨_, -, rfl⟩ := Option.map_eq_some_iff.1 hb'
    exact hlt
  rw [Item.bindResponses, FieldMap.entries_ofList hsorted]
  constructor
  · intro he
    obtain ⟨bound, hbound, hsome⟩ := List.mem_filterMap.1 he
    obtain ⟨given, hgiven, rfl⟩ := List.mem_map.1 hbound
    obtain ⟨v, hread, rfl⟩ := Option.map_eq_some_iff.1 hsome
    exact ⟨given.2, FieldMap.find?_eq_some_iff.2 hgiven, hread⟩
  · rintro ⟨data, hdata, hread⟩
    refine List.mem_filterMap.2 ⟨_, List.mem_map_of_mem (FieldMap.find?_eq_some_iff.1 hdata), ?_⟩
    rw [hread]
    rfl

theorem mem_bad_bindResponses_iff : x ∈ (item.bindResponses submission).2 ↔
    ∃ data, submission.find? x = some data ∧ item.bindResponse? x data = none := by
  simp [Item.bindResponses, FieldMap.find?_eq_some_iff]

/-- What is submitted and is not bad is bound. -/
theorem exists_mem_bindResponses (hdata : submission.find? x = some data)
    (hgood : x ∉ (item.bindResponses submission).2) :
    ∃ v, item.bindResponse? x data = some v ∧
      (x, v) ∈ (item.bindResponses submission).1.entries := by
  cases hv : item.bindResponse? x data with
  | none => exact absurd (mem_bad_bindResponses_iff.2 ⟨data, hdata, hv⟩) hgood
  | some v => exact ⟨v, rfl, mem_bindResponses_iff.2 ⟨data, hdata, hv⟩⟩

/-- What is not submitted, or is bad, is not bound. -/
theorem ne_of_mem_bindResponses (hx : submission.find? x = none ∨
    x ∈ (item.bindResponses submission).2) {e : String × Value}
    (he : e ∈ (item.bindResponses submission).1.entries) : e.1 ≠ x := by
  rintro rfl
  obtain ⟨data, hdata, hv⟩ := mem_bindResponses_iff.1 he
  rcases hx with hnone | hbad
  · cases hnone.symm.trans hdata
  · obtain ⟨data', hdata', hnone⟩ := mem_bad_bindResponses_iff.1 hbad
    obtain rfl := Option.some.inj (hdata'.symm.trans hdata)
    cases hnone.symm.trans hv

/-- The bad identifiers come in increasing order, without repetition. -/
theorem pairwise_bad_bindResponses (item : Item) (submission : Submission) :
    (item.bindResponses submission).2.Pairwise (· < ·) := by
  have hsorted : (submission.entries.map fun e ↦ (e.1, item.bindResponse? e.1 e.2)).Pairwise
      (fun a b ↦ a.1 < b.1) := List.pairwise_map.2 submission.sorted
  exact List.pairwise_map.2 (hsorted.filter _)

/-- A bound value is what `readResponse?` reads of a submission for a candidate response. -/
theorem exists_of_mem_bindResponses {e : String × Value}
    (he : e ∈ (item.bindResponses submission).1.entries) :
    ∃ d data, item.declaration? e.1 = some d ∧ d.isCandidateResponse = true ∧
      d.readResponse? data = some e.2 := by
  obtain ⟨data, -, hbound⟩ := mem_bindResponses_iff.1 he
  obtain ⟨d, hd, hcandidate, hread⟩ := bindResponse?_eq_some_iff.1 hbound
  exact ⟨d, data, hd, hcandidate, hread⟩

theorem identifier_of_mem_bindResponses {e : String × Value}
    (he : e ∈ (item.bindResponses submission).1.entries) :
    e.1 ≠ BuiltIn.duration.identifier ∧ e.1 ≠ BuiltIn.numAttempts.identifier := by
  obtain ⟨d, data, hd, hcandidate, -⟩ := exists_of_mem_bindResponses he
  have hid : d.identifier = e.1 := by simpa using List.find?_some hd
  rw [← hid]
  exact (isCandidateResponse_iff.1 hcandidate).2

end AssessmentItem
