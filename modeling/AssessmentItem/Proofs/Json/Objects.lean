import Mathlib.Data.List.Nodup
import AssessmentItem.Document.Encode

/-!
# What is read back of an encoding

An object is written from a list of fields with distinct names, some of which may have nothing to
write.  Every field is found in the object as it was listed, whatever its place.  So a view that
reads back the encoding of a member reads it back as a field, as an item of an array and as a value
of a map.

## Main definitions

* `Json.present` : the fields that have something to write.
* `Json.Restores` : a view that reads back what is encoded.

## Main results

* `FieldMap.find?_ofList` : what is found in the map of a list with distinct names.
* `Json.lookup?_present` : what is found of a field in an object.
* `Json.Restores.list`, `Json.Restores.map` : lists and maps of what is read back.
* `Json.Restores.required?`, `Json.Restores.optional?` : fields of what is read back.
-/

namespace AssessmentItem

/-! ### Maps of lists -/

theorem FieldMap.nodup_names {α : Type} (m : FieldMap α) : (m.entries.map (·.1)).Nodup := by
  refine List.pairwise_map.2 (m.sorted.imp fun hlt heq ↦ ?_)
  rw [heq] at hlt
  exact String.lt_irrefl _ hlt

/-- In a list with distinct names every entry is found by its name. -/
theorem find?_of_mem {α : Type} {l : List (String × α)} (distinct : (l.map (·.1)).Nodup)
    {e : String × α} (he : e ∈ l) : (l.find? fun e' ↦ e'.1 == e.1) = some e := by
  have hsome : (l.find? fun e' ↦ e'.1 == e.1).isSome :=
    List.find?_isSome.2 ⟨e, he, beq_self_eq_true e.1⟩
  obtain ⟨e', hfind⟩ := Option.isSome_iff_exists.1 hsome
  have hsame : e'.1 = e.1 := by simpa using List.find?_some hfind
  rw [hfind, List.inj_on_of_nodup_map distinct (List.mem_of_find?_eq_some hfind) he hsame]

/-- A name that is not listed is not found. -/
theorem find?_of_notMem {α : Type} {l : List (String × α)} {x : String}
    (h : x ∉ l.map (·.1)) : (l.find? fun e ↦ e.1 == x) = none :=
  List.find?_eq_none.2 fun e he heq ↦ h (List.mem_map.2 ⟨e, he, eq_of_beq heq⟩)

theorem FieldMap.find?_eq_some_iff {α : Type} {m : FieldMap α} {x : String} {a : α} :
    m.find? x = some a ↔ (x, a) ∈ m.entries := by
  constructor
  · intro h
    obtain ⟨e, he, rfl⟩ := Option.map_eq_some_iff.1 h
    obtain rfl : e.1 = x := by simpa using List.find?_some he
    exact List.mem_of_find?_eq_some he
  · intro h
    rw [find?, find?_of_mem m.nodup_names h, Option.map_some]

/-- In the map that `ofList` makes of a list with distinct names a value is found as in the list. -/
theorem FieldMap.find?_ofList {α : Type} {l : List (String × α)}
    (distinct : (l.map (·.1)).Nodup) (x : String) :
    (ofList l).find? x = (l.find? fun e ↦ e.1 == x).map (·.2) := by
  suffices hall : ∀ (l : List (String × α)) (m : FieldMap α), (l.map (·.1)).Nodup →
      (l.foldl (fun m e ↦ m.insert e.1 e.2) m).find? x =
        ((l.find? fun e ↦ e.1 == x).map (·.2)).or (m.find? x) by
    rw [ofList, hall l empty distinct]
    exact Option.or_none
  intro l
  induction l with
  | nil => exact fun m _ ↦ rfl
  | cons e l ih =>
    intro m hdistinct
    obtain ⟨hfresh, hrest⟩ := List.nodup_cons.1 hdistinct
    rw [List.foldl_cons, ih _ hrest, find?_insert, List.find?_cons]
    by_cases hx : e.1 = x
    · subst hx
      rw [find?_of_notMem hfresh, if_pos rfl, beq_self_eq_true]
      rfl
    · rw [if_neg hx, beq_false_of_ne hx]

namespace Json

/-! ### The fields of an object -/

/-- The fields of an object are what `asFields?` gives, sorted and each once. -/
theorem asFields?_fields (names : List String) (l : List (String × Json)) :
    asFields? names (fields l) = some (FieldMap.ofList l).entries := by
  have hall : names.all (fun name ↦
      ((FieldMap.ofList l).entries.filter fun e ↦ e.1 == name).length ≤ 1) = true := by
    refine List.all_eq_true.2 fun name _ ↦ decide_eq_true ?_
    have hcount := List.nodup_iff_count_le_one.1 (FieldMap.nodup_names (FieldMap.ofList l)) name
    rwa [List.count, List.countP_map, List.countP_eq_length_filter] at hcount
  exact if_pos hall

/-- A field of a list with distinct names is what `lookup?` finds in the object. -/
theorem lookup?_ofList {l : List (String × Json)} (distinct : (l.map (·.1)).Nodup) :
    ∀ e ∈ l, lookup? (FieldMap.ofList l).entries e.1 = some e.2 := by
  intro e he
  have hfound := FieldMap.find?_ofList distinct e.1
  rwa [find?_of_mem distinct he] at hfound

/-- The fields that have something to write. -/
def present (l : List (String × Option Json)) : List (String × Json) :=
  l.filterMap fun e ↦ e.2.map fun v ↦ (e.1, v)

@[simp] theorem present_nil : present [] = [] := rfl

@[simp] theorem present_cons_some (name : String) (v : Json) (l : List (String × Option Json)) :
    present ((name, some v) :: l) = (name, v) :: present l := rfl

/-- An `optionalField` that is left out if there is nothing to write. -/
@[simp] theorem present_cons_map {α : Type} (name : String) (encode : α → Json) (a : Option α)
    (l : List (String × Option Json)) :
    present ((name, a.map encode) :: l) = optionalField name encode a ++ present l := by
  cases a <;> rfl

theorem sublist_present (l : List (String × Option Json)) :
    ((present l).map (·.1)).Sublist (l.map (·.1)) := by
  induction l with
  | nil => exact .slnil
  | cons e l ih =>
    obtain ⟨name, v | v⟩ := e
    · exact ih.cons name
    · exact ih.cons_cons name

/-- A field is found in the object of what is `present` as it is listed. -/
theorem lookup?_present {l : List (String × Option Json)} (distinct : (l.map (·.1)).Nodup) :
    ∀ e ∈ l, lookup? (FieldMap.ofList (present l)).entries e.1 = e.2 := by
  intro e he
  have hdistinct := distinct.sublist (sublist_present l)
  obtain ⟨name, v | v⟩ := e
  · refine (FieldMap.find?_ofList hdistinct name).trans ?_
    rw [List.find?_eq_none.2, Option.map_none]
    intro e' he' heq
    obtain ⟨e, hmem, hsome⟩ := List.mem_filterMap.1 he'
    obtain ⟨v, hv, rfl⟩ := Option.map_eq_some_iff.1 hsome
    have hsame : e = (name, none) :=
      List.inj_on_of_nodup_map distinct hmem he (eq_of_beq heq)
    rw [hsame] at hv
    cases hv
  · exact lookup?_ofList hdistinct (name, v) (List.mem_filterMap.2 ⟨(name, some v), he, rfl⟩)

/-! ### Views that read back what is encoded -/

/-- The `view` reads back what `encode` writes, and `.null` is not the encoding of anything. -/
structure Restores {α : Type} (encode : α → Json) (view : Json → Option α) : Prop where
  view_encode : ∀ a, view (encode a) = some a
  view_null : view .null = none

theorem restores_text : Restores .string asText? := ⟨fun _ ↦ rfl, rfl⟩

theorem restores_bool : Restores .bool asBool? := ⟨fun _ ↦ rfl, rfl⟩

theorem restores_natural : Restores .natural asNatural? := ⟨fun _ ↦ rfl, rfl⟩

theorem restores_number : Restores .float asNumber? := ⟨fun _ ↦ rfl, rfl⟩

theorem restores_integer : Restores ofInteger asInteger? where
  view_null := rfl
  view_encode n := by
    rw [ofInteger]
    split
    · rfl
    · rename_i hn
      have hnonneg : 0 ≤ n.toInt := Int.not_lt.1 fun h ↦ hn (Int64.lt_iff_toInt_lt.2 h)
      have hcond := n.toBitVec.toInt_eq_toNat_cond
      have hlt := n.toBitVec.isLt
      rw [Int64.toInt_toBitVec] at hcond
      have hsame : n.toInt = n.toBitVec.toNat := by
        split at hcond
        · exact hcond
        · omega
      exact Integer.fit?_eq_some_iff.2 hsame

/-- What has a `name` is read back from it. -/
theorem restores_named {α : Type} {name : α → String} {ofName? : String → Option α}
    (h : ∀ a, ofName? (name a) = some a) :
    Restores (fun a ↦ .string (name a)) (asNamed? ofName?) :=
  ⟨h, rfl⟩

theorem mapM_map_of_forall {α β : Type} {f : β → Option α} {g : α → β}
    (h : ∀ a, f (g a) = some a) (l : List α) : (l.map g).mapM f = some l := by
  induction l with
  | nil => rfl
  | cons a l ih =>
    rw [List.map_cons, List.mapM_cons, h, ih]
    rfl

namespace Restores

variable {α : Type} {encode : α → Json} {view : Json → Option α}

theorem ne_null (h : Restores encode view) (a : α) : encode a ≠ .null := by
  intro hnull
  have hnone := h.view_null
  rw [← hnull, h.view_encode] at hnone
  cases hnone

theorem list (h : Restores encode view) :
    Restores (fun l ↦ .array (l.map encode)) (asList? view) where
  view_null := rfl
  view_encode := mapM_map_of_forall h.view_encode

theorem map (h : Restores encode view) :
    Restores (fun m ↦ .ofMap (m.map encode)) (asMap? view) where
  view_null := rfl
  view_encode m := by
    have hentries : (m.entries.map fun e ↦ (e.1, encode e.2)).mapM
        (fun e ↦ (view e.2).bind fun a ↦ some (e.1, a)) = some m.entries :=
      mapM_map_of_forall (fun e ↦ by rw [h.view_encode, Option.bind_some]) m.entries
    rw [asMap?, ofMap, asEntries?, FieldMap.map]
    dsimp only [Option.bind_eq_bind, Option.bind_some]
    rw [hentries, Option.bind_some, FieldMap.ofList_entries]

/-! ### Fields that are read back -/

variable {fields : List (String × Json)} {name : String}

theorem required? (h : Restores encode view) {a : α}
    (hfield : lookup? fields name = some (encode a)) :
    Json.required? fields name view = some a := by
  rw [Json.required?, hfield, Option.bind_some, h.view_encode]

theorem defaulted? (h : Restores encode view) {a : α}
    (hfield : lookup? fields name = some (encode a)) (default : α) :
    Json.defaulted? fields name default view = some a := by
  rw [Json.defaulted?, hfield]
  exact h.view_encode a

/-- A field that is left out if there is nothing to write is read back by `Json.optional?`. -/
theorem optional? (h : Restores encode view) {a : Option α}
    (hfield : lookup? fields name = a.map encode) :
    Json.optional? fields name view = some a := by
  rw [Json.optional?, hfield]
  cases a with
  | none => rfl
  | some a =>
    rw [Option.map_some]
    split
    · rename_i hnone
      cases hnone
    · rename_i hnull
      exact absurd (Option.some.inj hnull) (h.ne_null a)
    · rename_i v _ hv
      rw [← Option.some.inj hv, h.view_encode, Option.map_some]

/-- A field that is `.null` if there is nothing to write is read back by `Json.optional?`. -/
theorem optional?_orNull (h : Restores encode view) {a : Option α}
    (hfield : lookup? fields name = some (orNull encode a)) :
    Json.optional? fields name view = some a := by
  cases a with
  | none => rw [Json.optional?, hfield, orNull]
  | some a =>
    exact h.optional? hfield

end Restores

end Json

end AssessmentItem
