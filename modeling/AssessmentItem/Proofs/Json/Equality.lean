import Mathlib.Data.List.Forall2
import AssessmentItem.Proofs.Json.Objects

/-!
# Equality of JSON values

Two JSON values are the same if they are built alike from the same texts, truth values and numbers;
numbers with a point are compared as numbers, so that the two zeros are the same.  Objects are maps:
those that are the same hold the same of every name.

## Main definitions

* `FieldMap.RelEntries`, `FieldMap.Rel` : entries and maps with the same names whose values are
  related.
* `Json.same` : equality of JSON values.

## Main results

* `FieldMap.Rel.find?` : what related maps hold of a name is related.
* `Json.same_field?` : the fields of JSON values that are the same.
* `Json.same_fields_iff` : objects that list the same names.
-/

namespace AssessmentItem

/-! ### Related maps -/

namespace FieldMap

variable {α β γ δ : Type} {R : α → β → Prop} {l : List (String × α)} {l' : List (String × β)}

/-- Two lists of entries have the same names one by one, and the values of each are related by
`R`. -/
def RelEntries (R : α → β → Prop) : List (String × α) → List (String × β) → Prop :=
  List.Forall₂ fun e e' ↦ e.1 = e'.1 ∧ R e.2 e'.2

@[simp] theorem relEntries_nil : RelEntries R [] [] := .nil

@[simp] theorem relEntries_cons_iff {e : String × α} {e' : String × β} :
    RelEntries R (e :: l) (e' :: l') ↔ (e.1 = e'.1 ∧ R e.2 e'.2) ∧ RelEntries R l l' :=
  List.forall₂_cons

/-- Two maps have the same names, and the values of each name are related by `R`. -/
def Rel (R : α → β → Prop) (m : FieldMap α) (n : FieldMap β) : Prop :=
  RelEntries R m.entries n.entries

theorem rel_map_iff {R : γ → δ → Prop} {f : α → γ} {g : β → δ} {m : FieldMap α}
    {n : FieldMap β} : Rel R (m.map f) (n.map g) ↔ Rel (fun a b ↦ R (f a) (g b)) m n := by
  rw [Rel, RelEntries, map, map, List.forall₂_map_left_iff, List.forall₂_map_right_iff]
  rfl

theorem RelEntries.find? (h : RelEntries R l l') (x : String) :
    Option.Rel R ((l.find? fun e ↦ e.1 == x).map (·.2))
      ((l'.find? fun e ↦ e.1 == x).map (·.2)) := by
  induction h with
  | nil => exact .none
  | @cons e e' _ _ head _ ih =>
    obtain ⟨hname, hvalue⟩ := head
    rw [List.find?_cons, List.find?_cons, ← hname]
    cases e.1 == x with
    | true => exact .some hvalue
    | false => exact ih

/-- Where lists with the same distinct names hold related values of every name, they have
`RelEntries`. -/
theorem relEntries_of_find? (names : l.map (·.1) = l'.map (·.1)) (distinct : (l.map (·.1)).Nodup)
    (h : ∀ x, Option.Rel R ((l.find? fun e ↦ e.1 == x).map (·.2))
      ((l'.find? fun e ↦ e.1 == x).map (·.2))) : RelEntries R l l' := by
  induction l generalizing l' with
  | nil =>
    obtain rfl := List.map_eq_nil_iff.1 names.symm
    exact .nil
  | cons e l ih =>
    obtain _ | ⟨e', l'⟩ := l'
    · nomatch names
    · obtain ⟨hname, names⟩ := List.cons.inj names
      replace hname : e.1 = e'.1 := hname
      obtain ⟨hfresh, distinct⟩ := List.nodup_cons.1 distinct
      have hhead := h e.1
      rw [List.find?_cons, List.find?_cons, ← hname, beq_self_eq_true] at hhead
      cases hhead with
      | some hvalue =>
        refine .cons ⟨hname, hvalue⟩ (ih names distinct fun x ↦ ?_)
        by_cases hx : x ∈ l.map (·.1)
        · have htail := h x
          have hne : e.1 ≠ x := by
            rintro rfl
            exact hfresh hx
          rwa [List.find?_cons, List.find?_cons, ← hname, beq_false_of_ne hne] at htail
        · rw [find?_of_notMem hx, find?_of_notMem (names ▸ hx)]
          exact .none

theorem Rel.find? {m : FieldMap α} {n : FieldMap β} (h : Rel R m n) (x : String) :
    Option.Rel R (m.find? x) (n.find? x) :=
  RelEntries.find? h x

theorem RelEntries.insertEntry (h : RelEntries R l l') (x : String) {a : α} {b : β} (hab : R a b) :
    RelEntries R (insertEntry x a l) (insertEntry x b l') := by
  induction h with
  | nil => exact .cons ⟨rfl, hab⟩ .nil
  | @cons e e' l l' head tail ih =>
    obtain ⟨k, v⟩ := e
    obtain ⟨k', w⟩ := e'
    obtain ⟨rfl, hvw⟩ := head
    rw [FieldMap.insertEntry, FieldMap.insertEntry]
    split
    · exact .cons ⟨rfl, hab⟩ (.cons ⟨rfl, hvw⟩ tail)
    · split
      · exact .cons ⟨rfl, hab⟩ tail
      · exact .cons ⟨rfl, hvw⟩ ih

/-- The maps that `ofList` makes of lists with `RelEntries` are related. -/
theorem RelEntries.ofList (h : RelEntries R l l') : Rel R (ofList l) (ofList l') := by
  suffices hall : ∀ (m : FieldMap α) (n : FieldMap β), Rel R m n →
      Rel R (l.foldl (fun m e ↦ m.insert e.1 e.2) m) (l'.foldl (fun m e ↦ m.insert e.1 e.2) n) from
    hall empty empty .nil
  induction h with
  | nil => exact fun _ _ hmn ↦ hmn
  | @cons e e' _ _ head _ ih =>
    obtain ⟨x, a⟩ := e
    obtain ⟨_, b⟩ := e'
    obtain ⟨rfl, hab⟩ := head
    exact fun m n hmn ↦ ih _ _ (RelEntries.insertEntry hmn x hab)

end FieldMap

/-! ### Equality -/

namespace Json

mutual

/-- Whether two JSON values are the same. -/
def same : Json → Json → Bool
  | null, null => true
  | bool a, bool b => a == b
  | natural m, natural n => m == n
  | negative m, negative n => m == n
  | float x, float y => x == y
  | string s, string t => s == t
  | array vs, array ws => sameItems vs ws
  | object fields, object fields' => sameFields fields fields'
  | _, _ => false

/-- Whether two lists have the `same` items in the same order. -/
def sameItems : List Json → List Json → Bool
  | [], [] => true
  | v :: vs, w :: ws => same v w && sameItems vs ws
  | _, _ => false

/-- Whether two lists have the `same` fields in the same order. -/
def sameFields : List (String × Json) → List (String × Json) → Bool
  | [], [] => true
  | (name, v) :: fields, (name', w) :: fields' =>
    name == name' && (same v w && sameFields fields fields')
  | _, _ => false

end

theorem sameItems_iff {vs ws : List Json} :
    sameItems vs ws ↔ List.Forall₂ (fun v w ↦ same v w) vs ws := by
  induction vs generalizing ws with
  | nil => cases ws <;> simp [sameItems]
  | cons v vs ih => cases ws <;> simp [sameItems, ih]

theorem sameFields_iff {fields fields' : List (String × Json)} :
    sameFields fields fields' ↔ FieldMap.RelEntries (fun v w ↦ same v w) fields fields' := by
  induction fields generalizing fields' with
  | nil => cases fields' <;> simp [sameFields, FieldMap.RelEntries]
  | cons e fields ih =>
    cases fields' with
    | nil => simp [sameFields, FieldMap.RelEntries]
    | cons => simp [sameFields, ih, and_assoc]

@[simp] theorem same_string_iff {s t : String} : same (string s) (string t) ↔ s = t := by
  rw [same, beq_iff_eq]

theorem same_array_map_iff {α : Type} {f : α → Json} {l l' : List α} :
    same (array (l.map f)) (array (l'.map f)) ↔ List.Forall₂ (fun a b ↦ same (f a) (f b)) l l' := by
  rw [same, sameItems_iff, List.forall₂_map_left_iff, List.forall₂_map_right_iff]

theorem same_ofMap_iff {m n : FieldMap Json} :
    same (ofMap m) (ofMap n) ↔ FieldMap.Rel (fun v w ↦ same v w) m n := by
  rw [ofMap, ofMap, same, sameFields_iff]
  rfl

/-- What is the `same` has the same of every field. -/
theorem same_field? {v w : Json} (h : same v w) (x : String) :
    Option.Rel (fun v w ↦ same v w) (v.field? x) (w.field? x) := by
  unfold same at h
  split at h
  case h_8 =>
    exact (sameFields_iff.1 h).find? x
  case h_9 => nomatch h
  all_goals exact .none

section Listed

variable {names : List String} (distinct : names.Nodup) {l l' : List (String × Json)}
include distinct

/-- In an object with distinct names `field?` finds a field as it was listed. -/
theorem field?_fields (hl : l.map (·.1) = names) (x : String) :
    (fields l).field? x = (l.find? fun e ↦ e.1 == x).map (·.2) := by
  subst hl
  exact FieldMap.find?_ofList distinct x

/-- Two objects that list the same distinct names are the `same` if all values are. -/
theorem same_fields_iff (hl : l.map (·.1) = names) (hl' : l'.map (·.1) = names) :
    same (fields l) (fields l') ↔
      FieldMap.RelEntries (fun v w ↦ same v w) l l' := by
  constructor
  · intro h
    have hlookup (x : String) := same_field? h x
    simp only [field?_fields distinct hl, field?_fields distinct hl'] at hlookup
    subst hl
    exact FieldMap.relEntries_of_find? hl'.symm distinct hlookup
  · exact fun h ↦ same_ofMap_iff.2 h.ofList

end Listed

end Json

end AssessmentItem
